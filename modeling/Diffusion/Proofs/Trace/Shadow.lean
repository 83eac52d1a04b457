import Diffusion.Backend.Tracer
import Diffusion.Proofs.Backend.Coupling
import Diffusion.Proofs.Backend.Eager
import Diffusion.Proofs.Program.Retention
import Diffusion.Proofs.Program.Typing

/-!
A recording in step with a computation.

While a computation has not failed, the values recorded stand for tensors: those that the recorded
instructions have when they are replayed. Main statement: `shadow`, the coupling of the recording
backend with the computing one in which corresponding calls do to the network what the newly
recorded instructions do.
-/

namespace Diffusion

variable {A : Arithmetic} {ν α β γ δ : Type}

namespace Recording

def extended (r : Recording A) (new : List (Instruction A)) : Recording A :=
  { r with instructions := r.instructions ++ new.toArray }

@[simp] theorem extended_nil (r : Recording A) : r.extended [] = r := by
  simp [extended]

theorem extended_append (r : Recording A) (first second : List (Instruction A)) :
    r.extended (first ++ second) = (r.extended first).extended second := by
  simp [extended]

def numValues (r : Recording A) : Nat := r.inputs.size + r.instructions.size

theorem runOn_record (r : Recording A) (op : Op A) (shape : Shape) :
    (record op shape).runOn r = (.ok ⟨r.numValues, shape⟩, r.extended [⟨op, shape⟩]) := by
  have pushed : r.instructions ++ [Instruction.mk op shape].toArray =
      r.instructions.push ⟨op, shape⟩ := by simp
  rw [extended, pushed]
  rfl

end Recording

/-- A recording with a tensor for each of its values. -/
structure Shadowed (A : Arithmetic) where
  recording : Recording A
  values : Array (Tensor A.Elem)
  size_eq : values.size = recording.numValues

namespace Shadowed

/-- A value stands for the tensor of its id, which has its shape. -/
def StandsFor (w : Shadowed A) (v : Value) (x : Tensor A.Elem) : Prop :=
  w.values[v.id]? = some x ∧ v.shape = x.shape

/-- Later values leave earlier ones as they are. -/
def Leads (w w' : Shadowed A) : Prop :=
  ∀ (v : Nat) (x : Tensor A.Elem), w.values[v]? = some x → w'.values[v]? = some x

theorem StandsFor.lookup_eq {w : Shadowed A} {v : Value} {x : Tensor A.Elem}
    (stands : w.StandsFor v x) : Program.lookup (w.values.map some) v.id = .ok x := by
  rw [Program.lookup_map_some, stands.1]

/-- Values and tensors that stand for each other, if no call on tensors has failed. -/
def Related : Option (Shadowed A) → Value → Tensor A.Elem → Prop
  | none, _, _ => True
  | some w, v, x => w.StandsFor v x

/-- What a recording call that succeeds appends, replayed from the values so far, and a call on
tensors do the same to the network. They fail together, or both succeed with related results. -/
def Couples (network : Option (Network A ν)) (w : Shadowed A) (x : Action (Recording A) α)
    (y : Action ν β) (R : Option (Shadowed A) → α → β → Prop) : Prop :=
  ∀ a r, x.runOn w.recording = (.ok a, r) → ∀ s, ∃ new, r = w.recording.extended new ∧
    let replayed := (Program.retain (.eager network) new w.values).runOn s
    ((∃ h after, replayed = (.error h, after) ∧ y.runOn s = (.error h, after) ∧ ∃ b, R none a b) ∨
      ∃ after b, ∃ w' : Shadowed A, replayed = (.ok w'.values, after) ∧
        y.runOn s = (.ok b, after) ∧ w'.recording = r ∧ w.Leads w' ∧ R (some w') a b)

end Shadowed

/-- After a failure all that matters of a recording call is that it only appends, and that what it
appends scales by elements. Its result is still related to something, so that what follows can be
told to append as well. -/
def Recording.Appends (x : Action (Recording A) α) (R : α → β → Prop) : Prop :=
  ∀ r a r', x.runOn r = (.ok a, r') →
    (∃ new, r' = r.extended new ∧ ∀ i ∈ new, i.op.Exact) ∧ ∃ b, R a b

namespace Recording

theorem appends_pure {a : α} {b : β} {R : α → β → Prop} (related : R a b) :
    Appends (pure a : Action (Recording A) α) R := by
  rintro r _ _ ⟨⟩
  exact ⟨⟨[], by simp, by simp⟩, b, related⟩

theorem appends_bind {x : Action (Recording A) α} {f : α → Action (Recording A) γ}
    {R : α → β → Prop} {S : γ → δ → Prop} (first : Appends x R)
    (next : ∀ a b, R a b → Appends (f a) S) : Appends (x >>= f) S := by
  intro r c r'' chain
  obtain ⟨a, r', ran, continued⟩ := Action.of_bind_ok chain
  obtain ⟨⟨new₁, grown₁, exact₁⟩, b, related⟩ := first r a r' ran
  obtain ⟨⟨new₂, grown₂, exact₂⟩, relatedTo⟩ := next a b related r' c r'' continued
  refine ⟨⟨new₁ ++ new₂, by rw [grown₂, grown₁, extended_append], fun i member => ?_⟩, relatedTo⟩
  exact (List.mem_append.mp member).elim (exact₁ i) (exact₂ i)

theorem appends_record {op : Op A} (exact : op.Exact) (shape : Shape) {R : Value → β → Prop}
    (related : ∀ v, ∃ b, R v b) : Appends (record op shape) R := by
  intro r v r' ran
  rw [runOn_record] at ran
  cases ran
  exact ⟨⟨_, rfl, List.forall_mem_singleton.mpr exact⟩, related _⟩

theorem appends_fail (e : Error) {R : α → β → Prop} :
    Appends (Action.fail e : Action (Recording A) α) R := by
  rintro r _ _ ⟨⟩

theorem appends_halt (h : Halt) {R : α → β → Prop} :
    Appends (Action.ofExcept (.error h) : Action (Recording A) α) R := by
  rintro r _ _ ⟨⟩

end Recording

namespace Shadowed

variable {network : Option (Network A ν)} {w : Shadowed A}

theorem couples_pure {a : α} {b : β} {R : Option (Shadowed A) → α → β → Prop}
    (related : R (some w) a b) : w.Couples network (pure a) (pure b) R := by
  rintro _ _ ⟨⟩ s
  exact ⟨[], by simp, .inr ⟨s, b, w, rfl, rfl, rfl, fun _ _ found => found, related⟩⟩

theorem couples_bind {x : Action (Recording A) α} {y : Action ν β}
    {f : α → Action (Recording A) γ} {g : β → Action ν δ}
    {R : Option (Shadowed A) → α → β → Prop} {S : Option (Shadowed A) → γ → δ → Prop}
    (first : w.Couples network x y R)
    (failed : ∀ a b, R none a b → Recording.Appends (f a) (S none))
    (next : ∀ w' a b, w.Leads w' → R (some w') a b → w'.Couples network (f a) (g b) S) :
    w.Couples network (x >>= f) (y >>= g) S := by
  intro c r'' chain s
  obtain ⟨a, r', traced, continued⟩ := Action.of_bind_ok chain
  obtain ⟨new₁, grown₁, outcome⟩ := first a r' traced s
  rcases outcome with ⟨h, after, replayed, ran, b, related⟩ |
    ⟨between, b, w', replayed, ran, here, leads, related⟩
  · obtain ⟨⟨new₂, grown₂, -⟩, relatedTo⟩ := failed a b related r' c r'' continued
    refine ⟨new₁ ++ new₂, by rw [grown₂, grown₁, Recording.extended_append], .inl ?_⟩
    refine ⟨h, after, ?_, Action.runOn_bind_error ran, relatedTo⟩
    rw [Program.retain_append, Action.runOn_bind_error replayed]
  · subst here
    obtain ⟨new₂, grown₂, outcome⟩ := next w' a b leads related c r'' continued between
    refine ⟨new₁ ++ new₂, by rw [grown₂, grown₁, Recording.extended_append], ?_⟩
    rw [Program.retain_append, Action.runOn_bind_ok replayed, Action.runOn_bind_ok ran]
    rcases outcome with ⟨h, after, replayed, ran, relatedTo⟩ |
      ⟨after, d, w'', replayed, ran, there, further, related⟩
    · exact .inl ⟨h, after, replayed, ran, relatedTo⟩
    · exact .inr ⟨after, d, w'', replayed, ran, there,
        fun v x found => further v x (leads v x found), related⟩

/-- Recording one operation, beside a call that does what the operation does. -/
theorem couples_record {op : Op A} {shape : Shape} {y : Action ν (Tensor A.Elem)}
    (performs : Program.perform (.eager network) (w.values.map some) op = y)
    (shapes : ∀ s x after, y.runOn s = (.ok x, after) → x.shape = shape) :
    w.Couples network (Recording.record op shape) y Related := by
  intro v r traced s
  rw [Recording.runOn_record] at traced
  cases traced
  refine ⟨[⟨op, shape⟩], rfl, ?_⟩
  have one : Program.retain (.eager network) [⟨op, shape⟩] w.values =
      y >>= fun x => (if x.shape = shape then pure x
        else Action.fail (.producedShape w.values.size x.shape shape)) >>= fun x =>
          pure (w.values.push x) := by
    rw [Program.retain, Program.performDeclared, performs, bind_assoc]
    rfl
  rw [one]
  rcases ran : y.runOn s with ⟨h | x, after⟩
  · rw [Action.runOn_bind_error ran]
    exact .inl ⟨h, after, rfl, rfl, .fill [] 0, trivial⟩
  · rw [Action.runOn_bind_ok ran, if_pos (shapes s x after ran), pure_bind, Action.runOn_pure]
    let w' : Shadowed A := {
      recording := w.recording.extended [⟨op, shape⟩]
      values := w.values.push x
      size_eq := by
        simp [Recording.extended, Recording.numValues, w.size_eq, Nat.add_assoc] }
    have leads : w.Leads w' := by
      intro v y found
      have inside := (Array.getElem?_eq_some_iff.mp found).1
      change (w.values.push x)[v]? = some y
      rw [Array.getElem?_push, if_neg (Nat.ne_of_lt inside), found]
    have newest : w'.StandsFor ⟨w.recording.numValues, shape⟩ x := by
      refine ⟨?_, (shapes s x after ran).symm⟩
      change (w.values.push x)[w.recording.numValues]? = some x
      rw [← w.size_eq, Array.getElem?_push_size]
    exact .inr ⟨after, x, w', rfl, rfl, rfl, leads, newest⟩

theorem StandsFor.of_leads {w w' : Shadowed A} {v : Value} {x : Tensor A.Elem}
    (leads : w.Leads w') (stands : w.StandsFor v x) : w'.StandsFor v x :=
  ⟨leads v.id x stands.1, stands.2⟩

/-! ### The operations -/

variable {v v' : Value} {x x' : Tensor A.Elem}

theorem couples_scale (widens : A.WidensExactly) (factor : A.Elem) (stands : w.StandsFor v x) :
    w.Couples network ((Backend.tracer A).scale v factor)
      ((Backend.eager network).scale x factor) Related := by
  refine couples_record ?_ ?_
  · rw [Program.perform_scale stands.lookup_eq, widens factor]
  · rintro s _ _ ⟨⟩
    exact stands.2.symm

theorem couples_noise (seed : UInt64) (stands : w.StandsFor v x) :
    w.Couples network ((Backend.tracer A).noise v seed)
      ((Backend.eager network).noise x seed) Related := by
  refine couples_record (Program.perform_noise stands.lookup_eq) ?_
  rintro s _ _ ⟨⟩
  exact stands.2.symm

theorem couples_fail (e : Error) {y : Action ν β} {R : Option (Shadowed A) → α → β → Prop} :
    w.Couples network (Action.fail e) y R := by
  rintro _ _ ⟨⟩

theorem couples_alike {mnemonic operation : String} {op : Nat → Nat → Op A}
    {f : A.Elem → A.Elem → A.Elem} {y : Action ν (Tensor A.Elem)}
    (performs : Program.perform (.eager network) (w.values.map some) (op v.id v'.id) = y)
    (combines : y = Backend.reported (x.combine operation f x')) (stands : w.StandsFor v x)
    (stands' : w.StandsFor v' x') :
    w.Couples network (Backend.recordAlike mnemonic op v v') y Related := by
  unfold Backend.recordAlike
  split
  · rename_i same
    refine couples_record performs ?_
    rw [stands.2, stands'.2] at same
    rw [combines, Tensor.combine_same _ _ same]
    rintro s _ _ ⟨⟩
    exact stands.2.symm
  · exact couples_fail _

theorem couples_add (stands : w.StandsFor v x) (stands' : w.StandsFor v' x') :
    w.Couples network ((Backend.tracer A).add v v') ((Backend.eager network).add x x')
      Related :=
  couples_alike (Program.perform_add stands.lookup_eq stands'.lookup_eq) rfl stands stands'

theorem couples_sub (stands : w.StandsFor v x) (stands' : w.StandsFor v' x') :
    w.Couples network ((Backend.tracer A).sub v v') ((Backend.eager network).sub x x')
      Related :=
  couples_alike (Program.perform_sub stands.lookup_eq stands'.lookup_eq) rfl stands stands'

theorem couples_concat (stands : w.StandsFor v x) (stands' : w.StandsFor v' x') :
    w.Couples network ((Backend.tracer A).concat v v') ((Backend.eager network).concat x x')
      Related := by
  change w.Couples network (Backend.recordConcat v v') _ _
  unfold Backend.recordConcat
  split
  · rename_i sum rest stacked
    rw [stands.2, stands'.2] at stacked
    cases fits : Halt.checked sum with
    | error h => rintro _ _ ⟨⟩
    | ok sum' =>
        obtain ⟨-, rfl⟩ := Halt.checked_eq_ok_iff.mp fits
        rw [Action.ofExcept_ok, pure_bind]
        refine couples_record (Program.perform_concat stands.lookup_eq stands'.lookup_eq) ?_
        intro s y after ran
        rw [Backend.runOn_concat stacked] at ran
        split at ran
        · cases ran
          rfl
        · cases ran
  · exact couples_fail _

theorem couples_predict (timestep : A.Elem) (stands : w.StandsFor v x)
    (stands' : w.StandsFor v' x') :
    w.Couples network ((Backend.tracer A).predict v timestep v')
      ((Backend.eager network).predict x timestep x') Related := by
  change w.Couples network (Backend.recordCall v timestep v') _ _
  unfold Backend.recordCall
  split
  · refine couples_record (Program.perform_unet stands.lookup_eq stands'.lookup_eq) ?_
    intro s y after called
    exact (Backend.shape_of_callNetwork called).trans stands.2.symm
  · exact couples_fail _

theorem couples_half (half : Half) {s : Shape} (halved : Shape.half? v.shape = some s)
    (stands : w.StandsFor v x) :
    w.Couples network (Recording.record (.slice v.id half) s)
      ((Backend.eager network).split x >>= fun halves => pure (half.pick halves)) Related := by
  refine couples_record (Program.perform_slice stands.lookup_eq) ?_
  intro state y after ran
  rw [stands.2] at halved
  rw [Action.runOn_bind_ok (Backend.runOn_split halved state)] at ran
  cases ran
  cases half <;> rfl

/-- Both halves are recorded, one after the other, where tensors are cut only once. -/
theorem couples_split (stands : w.StandsFor v x) :
    w.Couples network ((Backend.tracer A).split v) ((Backend.eager network).split x)
      fun w a b => Related w a.1 b.1 ∧ Related w a.2 b.2 := by
  change w.Couples network (Backend.recordSplit v) _ _
  unfold Backend.recordSplit
  split
  · exact couples_fail _
  · rename_i s halved
    have twice : (Backend.eager network).split x =
        ((Backend.eager network).split x >>= fun halves => pure (Half.first.pick halves)) >>=
          fun first => ((Backend.eager network).split x >>= fun halves =>
            pure (Half.second.pick halves)) >>= fun second => pure (first, second) := by
      apply Action.ext
      intro state
      rw [stands.2] at halved
      have once : ((Backend.eager network).split x).runOn state = _ :=
        Backend.runOn_split halved state
      simp only [bind_assoc, pure_bind, Action.runOn_bind_ok once]
      rw [once]
      rfl
    rw [twice]
    refine couples_bind (couples_half .first halved stands) ?_ ?_
    · intro first _ _
      refine Recording.appends_bind (R := fun _ (_ : Tensor A.Elem) => True)
        (Recording.appends_record (Op.exact_of_ne (by simp)) _ fun _ => ⟨x, trivial⟩) ?_
      intro second y _
      exact Recording.appends_pure (b := (y, y)) ⟨trivial, trivial⟩
    · intro w₁ first _ leads₁ firsts
      refine couples_bind (couples_half .second halved (stands.of_leads leads₁)) ?_ ?_
      · intro second y _
        exact Recording.appends_pure (b := (y, y)) ⟨trivial, trivial⟩
      · intro w₂ second _ leads₂ seconds
        exact couples_pure ⟨firsts.of_leads leads₂, seconds⟩

end Shadowed

namespace Recording

/-! ### The operations after a failure -/

variable {R : Value → β → Prop} (related : ∀ v, ∃ b, R v b)

include related

theorem appends_alike (mnemonic : String) {op : Nat → Nat → Op A} (a b : Value)
    (exact : (op a.id b.id).Exact) : Appends (Backend.recordAlike mnemonic op a b) R := by
  unfold Backend.recordAlike
  split
  · exact appends_record exact _ related
  · exact appends_fail _

theorem appends_concat (a b : Value) :
    Appends (Backend.recordConcat a b : Action (Recording A) Value) R := by
  unfold Backend.recordConcat
  split
  · rename_i sum rest _
    cases Halt.checked sum with
    | error h => exact appends_halt h
    | ok sum => exact appends_record (Op.exact_of_ne (by simp)) _ related
  · exact appends_fail _

theorem appends_call (sample : Value) (timestep : A.Elem) (conditioning : Value) :
    Appends (Backend.recordCall sample timestep conditioning) R := by
  unfold Backend.recordCall
  split
  · exact appends_record (Op.exact_of_ne (by simp)) _ related
  · exact appends_fail _

omit related in
theorem appends_split (a : Value) {S : Value × Value → β → Prop} (related : ∀ vs, ∃ b, S vs b) :
    Appends (Backend.recordSplit a : Action (Recording A) (Value × Value)) S := by
  unfold Backend.recordSplit
  split
  · exact appends_fail _
  · refine appends_bind (R := fun _ (_ : Unit) => True)
      (appends_record (Op.exact_of_ne (by simp)) _ fun _ => ⟨(), trivial⟩) fun first _ _ => ?_
    refine appends_bind (R := fun _ (_ : Unit) => True)
      (appends_record (Op.exact_of_ne (by simp)) _ fun _ => ⟨(), trivial⟩) fun second _ _ => ?_
    obtain ⟨b, same⟩ := related (first, second)
    exact appends_pure same

end Recording

/-- The recording backend beside the computing one. No world stands for a computation that has
failed. -/
def shadow (widens : A.WidensExactly) (network : Option (Network A ν)) :
    Coupling (Backend.tracer A) (Backend.eager network) where
  World := Option (Shadowed A)
  Leads
    | some w, some w' => w.Leads w'
    | _, none => True
    | none, some _ => False
  Related := Shadowed.Related
  Couples
    | some w, x, y, R => w.Couples network x y R
    | none, x, _, R => Recording.Appends x (R none)
  related_of_leads := by
    rintro (_ | w) (_ | w') v x leads related
    · trivial
    · cases leads
    · trivial
    · exact related.of_leads leads
  couples_pure := by
    rintro α β (_ | w) a b R related
    · exact Recording.appends_pure related
    · exact Shadowed.couples_pure related
  couples_halt := by
    rintro α β (_ | w) h R
    · exact Recording.appends_halt h
    · rintro _ _ ⟨⟩
  couples_bind := by
    rintro α β γ δ (_ | w) x y f g R S first next
    · exact Recording.appends_bind first fun a b related => next none a b trivial related
    · exact Shadowed.couples_bind first (fun a b related => next none a b trivial related)
        fun w' a b leads related => next (some w') a b leads related
  couples_scale := by
    rintro (_ | w) v x factor related
    · exact Recording.appends_record (Op.exact_scale _ _) _ fun _ => ⟨x, trivial⟩
    · exact Shadowed.couples_scale widens factor related
  couples_add := by
    rintro (_ | w) v x v' x' related related'
    · exact Recording.appends_alike (fun _ => ⟨x, trivial⟩) _ _ _ (Op.exact_of_ne (by simp))
    · exact Shadowed.couples_add related related'
  couples_sub := by
    rintro (_ | w) v x v' x' related related'
    · exact Recording.appends_alike (fun _ => ⟨x, trivial⟩) _ _ _ (Op.exact_of_ne (by simp))
    · exact Shadowed.couples_sub related related'
  couples_concat := by
    rintro (_ | w) v x v' x' related related'
    · exact Recording.appends_concat (fun _ => ⟨x, trivial⟩) _ _
    · exact Shadowed.couples_concat related related'
  couples_split := by
    rintro (_ | w) v x related
    · exact Recording.appends_split v fun _ => ⟨(x, x), trivial, trivial⟩
    · exact Shadowed.couples_split related
  couples_noise := by
    rintro (_ | w) v x seed related
    · exact Recording.appends_record (Op.exact_of_ne (by simp)) _ fun _ => ⟨x, trivial⟩
    · exact Shadowed.couples_noise seed related
  couples_predict := by
    rintro (_ | w) v x v' x' timestep related related'
    · exact Recording.appends_call (fun _ => ⟨x, trivial⟩) _ _ _
    · exact Shadowed.couples_predict timestep related related'

end Diffusion
