import Diffusion.Proofs.Backend.Contract
import Diffusion.Proofs.Program.Pruning
import Diffusion.Proofs.Trace.Shadow

/-!
A recording that is well typed so far.

As long as operations are recorded on values that the recording has, every instruction reads earlier
values and declares the shape that they imply. A draft carries the proof of this. Main statement:
`Draft.tracing`, the contract by which operations on values of one shape record no call of the
network and lose none that their operands need.
-/

namespace Diffusion

open Relation (ReflTransGen)

variable {A : Arithmetic}

namespace Program

variable {p q : Program A}

theorem lt_of_valueShape? {v : Nat} {s : Shape} (found : p.valueShape? v = some s) :
    v < p.numValues := by
  rw [valueShape?_eq_shapes] at found
  exact p.length_shapes ▸ (List.getElem?_eq_some_iff.mp found).1

theorem Implies.mono (keeps : ∀ v s, p.valueShape? v = some s → q.valueShape? v = some s)
    {op : Op A} {s : Shape} (implies : p.Implies op s) : q.Implies op s := by
  rw [← op.mapOperands_id]
  exact implies.mapOperands fun v _ => keeps v

theorem Implies.operands_lt {op : Op A} {s : Shape} (implies : p.Implies op s) :
    ∀ v ∈ op.operands, v < p.numValues := by
  cases implies with
  | scale operand | slice operand | noise operand =>
      exact List.forall_mem_singleton.mpr (lt_of_valueShape? operand)
  | add left right | sub left right | concat left right | unet left right =>
      exact List.forall_mem_cons.mpr ⟨lt_of_valueShape? left,
        List.forall_mem_singleton.mpr (lt_of_valueShape? right)⟩

end Program

namespace Recording

variable {r : Recording A} {new : List (Instruction A)} {output output' : Nat}

theorem getElem?_extended {k : Nat} {i : Instruction A} (found : r.instructions[k]? = some i) :
    (r.extended new).instructions[k]? = some i := by
  change (r.instructions ++ new.toArray)[k]? = some i
  rw [Array.getElem?_append_left (Array.getElem?_eq_some_iff.mp found).1, found]

theorem of_getElem?_extended {k : Nat} {i : Instruction A}
    (found : (r.extended new).instructions[k]? = some i) :
    r.instructions[k]? = some i ∨ i ∈ new ∧ r.instructions.size ≤ k := by
  change (r.instructions ++ new.toArray)[k]? = some i at found
  by_cases before : k < r.instructions.size
  · exact .inl (by rwa [Array.getElem?_append_left before] at found)
  · rw [Array.getElem?_append_right (Nat.le_of_not_lt before), List.getElem?_toArray] at found
    exact .inr ⟨List.mem_of_getElem? found, Nat.le_of_not_lt before⟩

theorem shapes_extended (r : Recording A) (new : List (Instruction A)) (output output' : Nat) :
    ((r.extended new).toProgram output).shapes =
      (r.toProgram output').shapes ++ new.map (·.shape) := by
  simp [Program.shapes, toProgram, extended]

theorem valueShape?_extended {v : Nat} {s : Shape}
    (found : (r.toProgram output').valueShape? v = some s) :
    ((r.extended new).toProgram output).valueShape? v = some s := by
  rw [Program.valueShape?_eq_shapes] at found ⊢
  rw [shapes_extended r new output output',
    List.getElem?_append_left (List.getElem?_eq_some_iff.mp found).1, found]

theorem needs_extended {v u : Nat} (needs : (r.toProgram output').Needs v u) :
    ((r.extended new).toProgram output).Needs v u := by
  refine ReflTransGen.mono ?_ _ _ needs
  rintro v u ⟨k, i, found, same, member⟩
  exact ⟨k, i, getElem?_extended found, same, member⟩

end Recording

/-- A recording with a proof that its instructions read earlier values and declare the shapes that
these imply. -/
structure Draft (A : Arithmetic) where
  recording : Recording A
  ordered : ∀ (k : Nat) (i : Instruction A), recording.instructions[k]? = some i →
    ∀ v ∈ i.op.operands, v < recording.inputs.size + k
  declared : ∀ (k : Nat) (i : Instruction A), recording.instructions[k]? = some i →
    (recording.toProgram 0).Implies i.op i.shape

namespace Draft

/-- The value is one of the draft, with the shape declared for it. -/
def Has (w : Draft A) (v : Value) : Prop :=
  (w.recording.toProgram v.id).outputShape? = some v.shape

variable {w w' w'' : Draft A} {v x : Value} {op : Op A} {s : Shape} {α β : Type}

theorem Has.operand (has : w.Has v) :
    (w.recording.toProgram 0).valueShape? v.id = some v.shape :=
  has

/-- A draft with a value of it as the result is a checked program. -/
theorem Has.valid (has : w.Has v) : (w.recording.toProgram v.id).Valid :=
  (Program.valid_iff_wellTyped _).mpr ⟨w.ordered, fun k i found =>
    .mono (p := w.recording.toProgram 0) (q := w.recording.toProgram v.id)
      (fun _ _ shape => shape) (w.declared k i found),
    Program.lt_of_valueShape? has⟩

/-- The draft after one more operation. -/
def record (w : Draft A) (op : Op A) (s : Shape)
    (implies : (w.recording.toProgram 0).Implies op s) : Draft A where
  recording := w.recording.extended [⟨op, s⟩]
  ordered k i found v member := by
    rcases Recording.of_getElem?_extended found with before | ⟨newest, late⟩
    · exact w.ordered k i before v member
    · rw [List.mem_singleton.mp newest] at member
      have := implies.operands_lt v member
      change v < w.recording.inputs.size + w.recording.instructions.size at this
      change v < w.recording.inputs.size + k
      omega
  declared k i found := by
    have still := implies.mono (q := (w.recording.extended [⟨op, s⟩]).toProgram 0)
      fun _ _ found => Recording.valueShape?_extended found
    rcases Recording.of_getElem?_extended found with before | ⟨newest, -⟩
    · exact (w.declared k i before).mono fun _ _ found => Recording.valueShape?_extended found
    · rwa [List.mem_singleton.mp newest]

/-- A call that succeeds on a draft and leaves a draft. -/
def Goes (w : Draft A) (x : Action (Recording A) α) (R : Draft A → α → Prop) : Prop :=
  ∃ a w', x.runOn w.recording = (.ok a, w'.recording) ∧ R w' a

theorem goes_pure {a : α} {R : Draft A → α → Prop} (holds : R w a) : w.Goes (pure a) R :=
  ⟨a, w, rfl, holds⟩

theorem Goes.bind {x : Action (Recording A) α} {f : α → Action (Recording A) β}
    {R : Draft A → α → Prop} {S : Draft A → β → Prop} (first : w.Goes x R)
    (next : ∀ w' a, R w' a → w'.Goes (f a) S) : w.Goes (x >>= f) S := by
  obtain ⟨a, w', ran, holds⟩ := first
  obtain ⟨b, w'', continued, result⟩ := next w' a holds
  exact ⟨b, w'', (Action.runOn_bind_ok ran).trans continued, result⟩

theorem Goes.imp {x : Action (Recording A) α} {R S : Draft A → α → Prop} (goes : w.Goes x R)
    (weaker : ∀ w' a, R w' a → S w' a) : w.Goes x S := by
  obtain ⟨a, w', ran, holds⟩ := goes
  exact ⟨a, w', ran, weaker w' a holds⟩

/-! ### How drafts grow -/

/-- The second draft goes on from the first one, with calls of the network at some timesteps. -/
def Grows (w w' : Draft A) (timesteps : List A.Elem) : Prop :=
  ∃ new, w'.recording = w.recording.extended new ∧ new.filterMap (·.op.timestep?) = timesteps

variable {timesteps more : List A.Elem}

theorem grows_refl (w : Draft A) : w.Grows w [] := ⟨[], by simp, rfl⟩

theorem Grows.trans (first : w.Grows w' timesteps) (second : w'.Grows w'' more) :
    w.Grows w'' (timesteps ++ more) := by
  obtain ⟨new₁, grown₁, calls₁⟩ := first
  obtain ⟨new₂, grown₂, calls₂⟩ := second
  refine ⟨new₁ ++ new₂, ?_, ?_⟩
  · rw [grown₂, grown₁, Recording.extended_append]
  · rw [List.filterMap_append, calls₁, calls₂]

theorem Grows.inputs_eq (grows : w.Grows w' timesteps) :
    w'.recording.inputs = w.recording.inputs := by
  obtain ⟨new, grown, -⟩ := grows
  rw [grown]
  rfl

theorem Grows.visits_eq (grows : w.Grows w' timesteps) (output output' : Nat) :
    (w'.recording.toProgram output).visits =
      (w.recording.toProgram output').visits ++ timesteps := by
  obtain ⟨new, grown, calls⟩ := grows
  rw [grown]
  simp [Program.visits, Recording.toProgram, Recording.extended, calls]

theorem Has.of_grows (grows : w.Grows w' timesteps) (has : w.Has v) : w'.Has v := by
  obtain ⟨new, grown, -⟩ := grows
  unfold Has
  rw [grown]
  exact Recording.valueShape?_extended has

/-- The value needs every call of the network that is recorded so far. -/
def NeedsCalls (w : Draft A) (v : Value) : Prop :=
  ∀ (k : Nat) (i : Instruction A), w.recording.instructions[k]? = some i → i.op.isCall = true →
    (w.recording.toProgram v.id).Needs v.id (w.recording.inputs.size + k)

theorem NeedsCalls.of_grows (grows : w.Grows w' []) (needs : w.NeedsCalls v) :
    w'.NeedsCalls v := by
  obtain ⟨new, grown, none⟩ := grows
  intro k i found call
  rw [grown] at found ⊢
  rcases Recording.of_getElem?_extended found with before | ⟨added, -⟩
  · exact Recording.needs_extended (needs k i before call)
  · have quiet := List.filterMap_eq_nil_iff.mp none i added
    rw [← Op.isSome_timestep?, quiet] at call
    cases call

section Record

variable {implies : (w.recording.toProgram 0).Implies op s}

theorem grows_record : w.Grows (w.record op s implies) op.timestep?.toList :=
  ⟨[⟨op, s⟩], rfl, by cases found : op.timestep? <;> simp [found]⟩

theorem goes_record (implies : (w.recording.toProgram 0).Implies op s)
    {R : Draft A → Value → Prop}
    (holds : R (w.record op s implies) ⟨w.recording.numValues, s⟩) :
    w.Goes (Recording.record op s) R :=
  ⟨_, _, Recording.runOn_record _ _ _, holds⟩

theorem newest : (w.recording.extended [⟨op, s⟩]).instructions[w.recording.instructions.size]? =
    some ⟨op, s⟩ := by
  simp [Recording.extended]

theorem has_record : (w.record op s implies).Has ⟨w.recording.numValues, s⟩ :=
  Program.valueShape?_instruction ((w.record op s implies).recording.toProgram _) newest

/-- The newest value needs what its operands need, and itself. -/
theorem needsCalls_record (member : x.id ∈ op.operands) (needs : w.NeedsCalls x) :
    (w.record op s implies).NeedsCalls ⟨w.recording.numValues, s⟩ := by
  intro k i found call
  rcases Recording.of_getElem?_extended found with before | ⟨-, late⟩
  · exact ReflTransGen.head ⟨_, _, newest, rfl, member⟩
      (Recording.needs_extended (needs k i before call))
  · have last : k = w.recording.instructions.size := by
      have := (Array.getElem?_eq_some_iff.mp found).1
      simp [Draft.record, Recording.extended] at this
      omega
    rw [last]
    exact ReflTransGen.refl

end Record

/-! ### The operations -/

/-- A value of a shape that needs the calls that one of some earlier values needed, in a draft that
has grown by calls at some timesteps. -/
structure Result (w : Draft A) (timesteps : List A.Elem) (sources : List Value) (s : Shape)
    (w' : Draft A) (v : Value) : Prop where
  grows : w.Grows w' timesteps
  has : w'.Has v
  shape : v.shape = s
  needs : ∀ source ∈ sources, w.NeedsCalls source → w'.NeedsCalls v

variable {a b : Value}

theorem Result.mono {sources others : List Value} (result : w.Result timesteps sources s w' a)
    (sub : others ⊆ sources) : w.Result timesteps others s w' a :=
  ⟨result.grows, result.has, result.shape, fun source member => result.needs source (sub member)⟩

theorem Result.trans {s' : Shape} {sources others : List Value}
    (first : w.Result timesteps sources s' w' a) (next : w'.Result more (a :: others) s w'' b) :
    w.Result (timesteps ++ more) sources s w'' b :=
  ⟨first.grows.trans next.grows, next.has, next.shape, fun source member needs =>
    next.needs a List.mem_cons_self (first.needs source member needs)⟩

theorem goes_result (implies : (w.recording.toProgram 0).Implies op s) {sources : List Value}
    (operands : ∀ source ∈ sources, source.id ∈ op.operands) :
    w.Goes (Recording.record op s) (w.Result op.timestep?.toList sources s) :=
  goes_record implies ⟨grows_record, has_record, rfl,
    fun source member => needsCalls_record (operands source member)⟩

theorem goes_scale (factor : A.Elem) (has : w.Has a) :
    w.Goes ((Backend.tracer A).scale a factor) (w.Result [] [a] a.shape) :=
  goes_result (.scale has.operand) (by simp [Op.operands])

theorem goes_noise (seed : UInt64) (has : w.Has a) :
    w.Goes ((Backend.tracer A).noise a seed) (w.Result [] [] a.shape) :=
  goes_result (.noise has.operand) nofun

theorem goes_alike (mnemonic : String) {make : Nat → Nat → Op A} (same : a.shape = b.shape)
    (implies : (w.recording.toProgram 0).Implies (make a.id b.id) a.shape)
    (operands : ∀ source ∈ [a, b], source.id ∈ (make a.id b.id).operands) :
    w.Goes (Backend.recordAlike mnemonic make a b)
      (w.Result (make a.id b.id).timestep?.toList [a, b] a.shape) := by
  rw [Backend.recordAlike, if_pos same]
  exact goes_result implies operands

theorem goes_add (left : w.Has a) (right : w.Has b) (same : a.shape = b.shape) :
    w.Goes ((Backend.tracer A).add a b) (w.Result [] [a, b] a.shape) :=
  goes_alike "add" same (.add left.operand (same ▸ right.operand)) (by simp [Op.operands])

theorem goes_sub (left : w.Has a) (right : w.Has b) (same : a.shape = b.shape) :
    w.Goes ((Backend.tracer A).sub a b) (w.Result [] [a, b] a.shape) :=
  goes_alike "sub" same (.sub left.operand (same ▸ right.operand)) (by simp [Op.operands])

theorem goes_concat {sum : Nat} {rest : Shape} (left : w.Has a) (right : w.Has b)
    (stacked : Shape.stack? a.shape b.shape = some (sum :: rest)) (fits : sum < Halt.wordLimit) :
    w.Goes ((Backend.tracer A).concat a b) (w.Result [] [a, b] (sum :: rest)) := by
  change w.Goes (Backend.recordConcat a b) _
  rw [Backend.recordConcat, stacked]
  dsimp only
  rw [Halt.checked_eq_ok_iff.mpr ⟨fits, rfl⟩, Action.ofExcept_ok, pure_bind]
  exact goes_result (.concat left.operand right.operand stacked fits) (by simp [Op.operands])

theorem goes_predict (timestep : A.Elem) (sample : w.Has a) (conditioning : w.Has b)
    (rows : a.shape.head? = b.shape.head?) :
    w.Goes ((Backend.tracer A).predict a timestep b) (w.Result [timestep] [a, b] a.shape) := by
  change w.Goes (Backend.recordCall a timestep b) _
  rw [Backend.recordCall, if_pos rows]
  exact goes_result (.unet sample.operand conditioning.operand rows) (by simp [Op.operands])

theorem implies_slice (has : w.Has a) (halved : Shape.half? a.shape = some s) (half : Half) :
    (w.recording.toProgram 0).Implies (.slice a.id half) s := by
  obtain ⟨id, shape⟩ := a
  cases shape with
  | nil => cases halved
  | cons n rest =>
      rw [Shape.half?] at halved
      split at halved
      · cases halved
      · rename_i even
        cases halved
        exact .slice has (by omega)

theorem goes_split (has : w.Has a) (halved : Shape.half? a.shape = some s) :
    w.Goes ((Backend.tracer A).split a) fun w' halves =>
      w.Result [] [a] s w' halves.1 ∧ w.Result [] [a] s w' halves.2 := by
  change w.Goes (Backend.recordSplit a) _
  rw [Backend.recordSplit, halved]
  have slice : ∀ {w' : Draft A} (half : Half), w'.Has a →
      w'.Goes (Recording.record (.slice a.id half) s) (w'.Result [] [a] s) :=
    fun half has => goes_result (implies_slice has halved half) (by simp [Op.operands])
  refine (slice .first has).bind fun w₁ first before => ?_
  refine (slice .second (has.of_grows before.grows)).bind fun w₂ second after => ?_
  refine goes_pure ⟨⟨?_, ?_, before.shape, ?_⟩, ?_, after.has, after.shape, ?_⟩
  · exact before.grows.trans after.grows
  · exact before.has.of_grows after.grows
  · exact fun source member needs => (before.needs source member needs).of_grows after.grows
  · exact before.grows.trans after.grows
  · exact fun source member needs => after.needs source member (needs.of_grows before.grows)

/-- Operations on values of one shape record no call, and what they yield needs the calls that its
operands need. -/
def tracing (A : Arithmetic) (s : Shape) : Contract (Backend.tracer A) where
  World := Draft A
  Leads w w' := w.Grows w' []
  Fits w v := w.Has v ∧ v.shape = s
  Fed w v := w.NeedsCalls v
  Meets w x R := w.Goes x fun w' a => w.Grows w' [] ∧ R w' a
  fits_of_leads grows fits := ⟨fits.1.of_grows grows, fits.2⟩
  fed_of_leads grows needs := needs.of_grows grows
  meets_pure holds := goes_pure ⟨grows_refl _, holds⟩
  meets_bind first next := first.bind fun w' a ⟨grows, holds⟩ =>
    (next w' a grows holds).imp fun _ _ ⟨further, result⟩ => ⟨grows.trans further, result⟩
  meets_scale factor fits := (goes_scale factor fits.1).imp fun _ _ result =>
    ⟨result.grows, ⟨result.has, result.shape.trans fits.2⟩,
      List.forall_mem_singleton.mp result.needs⟩
  meets_add left right := (goes_add left.1 right.1 (left.2.trans right.2.symm)).imp
    fun _ _ result => ⟨result.grows, ⟨result.has, result.shape.trans left.2⟩,
      fun fed => fed.elim (result.needs _ (by simp)) (result.needs _ (by simp))⟩
  meets_sub left right := (goes_sub left.1 right.1 (left.2.trans right.2.symm)).imp
    fun _ _ result => ⟨result.grows, ⟨result.has, result.shape.trans left.2⟩,
      fun fed => fed.elim (result.needs _ (by simp)) (result.needs _ (by simp))⟩
  meets_noise seed fits := (goes_noise seed fits.1).imp fun _ _ result =>
    ⟨result.grows, result.has, result.shape.trans fits.2⟩

end Draft

end Diffusion
