import Diffusion.Proofs.Program.Liveness

/-!
Counting live bytes in words.

`Counts` says when a count in words is exact and that otherwise it overflows. `tally` keeps of the
count of live bytes all its amounts and the values that it takes off. Main statements:
`tally_counts` and `peakLiveBytes_counts`, by which both are exact as long as every size and every
amount of live bytes is a word, and overflow in all other cases.
-/

namespace Diffusion

open Halt (wordLimit checked)

/-- A count comes to an amount if everything fits in words, and overflows otherwise. -/
structure Counts {α : Type} (count : Except Halt α) (fits : Prop) (amount : α) : Prop where
  exact : fits → count = .ok amount
  overflows : ¬ fits → count = .error .overflow

namespace Counts

variable {α β : Type} {x : Except Halt α} {fits : Prop} {a : α}

theorem pure (a : α) : Counts (.ok a) True a := ⟨fun _ => rfl, fun never => absurd trivial never⟩

theorem checked (n : Nat) : Counts (checked n) (n < wordLimit) n :=
  ⟨fun fits => if_pos fits, fun large => if_neg large⟩

/-- A count after a count: the second one matters only if the first one fits. -/
theorem bind {f : α → Except Halt β} {next : Prop} {b : β} (first : Counts x fits a)
    (second : fits → Counts (f a) next b) : Counts (x >>= f) (fits ∧ next) b := by
  by_cases here : fits
  · rw [first.exact here]
    exact ⟨fun both => (second here).exact both.2,
      fun fails => (second here).overflows fun later => fails ⟨here, later⟩⟩
  · rw [first.overflows here]
    exact ⟨fun both => absurd both.1 here, fun _ => rfl⟩

theorem congr {fits' : Prop} (counts : Counts x fits a) (same : fits' ↔ fits) :
    Counts x fits' a :=
  ⟨fun here => counts.exact (same.mp here), fun fails => counts.overflows (fails ∘ same.mpr)⟩

/-- A count that does not overflow is exact. -/
theorem of_ok {counted : α} (counts : Counts x fits a) (ok : x = .ok counted) :
    fits ∧ counted = a := by
  by_cases here : fits
  · exact ⟨here, by simpa using ok.symm.trans (counts.exact here)⟩
  · cases ok.symm.trans (counts.overflows here)

theorem map (f : α → β) (counts : Counts x fits a) :
    Counts (x >>= fun a => Pure.pure (f a)) fits (f a) :=
  ⟨fun here => by rw [counts.exact here]; rfl, fun fails => by rw [counts.overflows fails]; rfl⟩

theorem mapM {γ : Type} {f : γ → Except Halt α} {good : γ → Prop} {g : γ → α}
    (each : ∀ c, Counts (f c) (good c) (g c)) (cs : List γ) :
    Counts (cs.mapM f) (∀ c ∈ cs, good c) (cs.map g) := by
  induction cs with
  | nil => exact (pure []).congr (by simp)
  | cons c rest ih =>
      rw [List.mapM_cons, List.map_cons]
      exact ((each c).bind fun _ => ih.map (g c :: ·)).congr List.forall_mem_cons

end Counts

/-! ### Sizes -/

/-- Whether the size of a value of a shape can be counted: the extents are multiplied one by one,
and the bytes come last. -/
def Shape.Countable (s : Shape) : Prop :=
  (∀ k ≤ s.length, Shape.volume (s.take k) < wordLimit) ∧ s.bytes < wordLimit

namespace Shape

theorem span_cons_zero (rest : Shape) : span (0 :: rest) = span rest := rfl

theorem span_cons_of_ne_zero {n : Nat} (nonempty : n ≠ 0) (rest : Shape) :
    span (n :: rest) = n * span rest := by
  simp [span, nonempty]

theorem span_pos (s : Shape) : 0 < s.span := by
  induction s with
  | nil => exact Nat.one_pos
  | cons n rest ih =>
      by_cases empty : n = 0
      · rw [empty, span_cons_zero]
        exact ih
      · rw [span_cons_of_ne_zero empty]
        exact Nat.mul_pos (Nat.pos_of_ne_zero empty) ih

/-- No extent is larger than the span, not even beside an empty one. -/
theorem le_span_cons (n : Nat) (rest : Shape) : n ≤ span (n :: rest) := by
  by_cases empty : n = 0
  · exact empty ▸ Nat.zero_le _
  · rw [span_cons_of_ne_zero empty]
    exact Nat.le_mul_of_pos_right n (span_pos rest)

end Shape

namespace Program

variable {A : Arithmetic} (p : Program A)

theorem checkedProduct_counts (product : Nat) (s : Shape) (start : product < wordLimit) :
    Counts (checkedProduct product s)
      (∀ k ≤ s.length, product * Shape.volume (s.take k) < wordLimit) (product * s.volume) := by
  induction s generalizing product with
  | nil =>
      rw [checkedProduct, Shape.volume, List.foldr_nil, Nat.mul_one]
      exact (Counts.pure product).congr (by simpa using start)
  | cons n rest ih =>
      have assoc : ∀ s : Shape, product * Shape.volume (n :: s) = product * n * s.volume :=
        fun s => (Nat.mul_assoc product n s.volume).symm
      rw [checkedProduct, assoc]
      refine ((Counts.checked _).bind fun fits => ih _ fits).congr ⟨fun all => ⟨?_, ?_⟩, ?_⟩
      · simpa using all 1 (by simp)
      · intro k inside
        rw [← assoc]
        exact all (k + 1) (Nat.succ_le_succ inside)
      · intro both k inside
        cases k with
        | zero => simpa using start
        | succ k =>
            rw [List.take_succ_cons, assoc]
            exact both.2 k (Nat.le_of_succ_le_succ inside)

theorem valueBytes_counts (s : Shape) : Counts (valueBytes s) s.Countable s.bytes := by
  have product := checkedProduct_counts 1 s (by decide)
  simp only [Nat.one_mul] at product
  exact product.bind fun _ => Counts.checked _

theorem checkedSum_counts (sum : Nat) (terms : List Nat) (start : sum < wordLimit) :
    Counts (checkedSum sum terms) (sum + terms.sum < wordLimit) (sum + terms.sum) := by
  induction terms generalizing sum with
  | nil =>
      rw [checkedSum, List.sum_nil, Nat.add_zero]
      exact (Counts.pure sum).congr (by simpa using start)
  | cons term rest ih =>
      rw [checkedSum, List.sum_cons, ← Nat.add_assoc]
      exact ((Counts.checked _).bind fun fits => ih _ fits).congr (by omega)

/-! ### Live bytes -/

variable {p} {α : Type} (watch : Watch α)

/-- Whether the sizes of the values before some value can be counted. -/
def CountableTo (p : Program A) (value : Nat) : Prop :=
  ∀ v < value, ∀ s, p.valueShape? v = some s → s.Countable

theorem releaseBytes_eq {index value : Nat} (inside : value ≤ p.numValues)
    (counted : p.CountableTo value) (operands : List Nat) (before : ∀ v ∈ operands, v < value)
    (left : Nat) (seen : α) :
    p.releaseBytes watch p.lastUses index operands
        (left + ((operands.filter (p.Dies index)).map p.bytesOf).sum) seen =
      .ok (left,
        (operands.filter (p.Dies index)).foldl (fun seen v => watch.taken v seen) seen) := by
  induction operands generalizing seen with
  | nil => rfl
  | cons v rest ih =>
      have here : v < value := before v (List.mem_cons_self ..)
      have later := ih fun v member => before v (List.mem_cons_of_mem _ member)
      have entry : Halt.entry p.lastUses v = .ok (lastReader? v 0 p.instructions.toList) :=
        Halt.entry_eq_ok_iff.mpr (p.getElem?_lastUses (Nat.lt_of_lt_of_le here inside))
      rw [releaseBytes, entry, Halt.bind_ok]
      by_cases dies : lastReader? v 0 p.instructions.toList = some index ∧ v ≠ p.output
      · obtain ⟨s, shape⟩ := p.valueShape?_of_lt (Nat.lt_of_lt_of_le here inside)
        have bytes : p.bytesOf v = s.bytes := by rw [bytesOf, shape]; rfl
        have filtered : (v :: rest).filter (p.Dies index) = v :: rest.filter (p.Dies index) :=
          List.filter_cons_of_pos (decide_eq_true dies)
        rw [if_pos dies, shape, filtered, List.map_cons, List.sum_cons, bytes]
        dsimp only
        rw [(valueBytes_counts s).exact (counted v here s shape), Halt.bind_ok, if_pos (by omega),
          Nat.add_left_comm, Nat.add_sub_cancel_left, later, List.foldl_cons]
      · have filtered : (v :: rest).filter (p.Dies index) = rest.filter (p.Dies index) :=
          List.filter_cons_of_neg (by rwa [decide_eq_true_eq])
        rw [if_neg dies, filtered]
        exact later seen

/-- What is seen of the live bytes of instructions in order, the first of which has the given
index. -/
def seenFrom (p : Program A) (watch : Watch α) : Nat → List (Instruction A) → α → α
  | _, [], seen => seen
  | index, i :: rest, seen =>
    seenFrom p watch (index + 1) rest <|
      (p.releasedBy index i).foldl (fun seen v => watch.taken v seen)
        (watch.amount (p.liveBytes (index + 1)) seen)

theorem CountableTo.succ {index : Nat} {i : Instruction A}
    (counted : p.CountableTo (p.inputs.size + index)) (found : p.instructions[index]? = some i)
    (size : i.shape.Countable) : p.CountableTo (p.inputs.size + (index + 1)) := by
  intro v before s shape
  rcases Nat.lt_succ_iff_lt_or_eq.mp (Nat.add_assoc .. ▸ before) with earlier | newest
  · exact counted v earlier s shape
  · rw [newest, p.valueShape?_instruction found, Option.some.injEq] at shape
    exact shape ▸ size

theorem followFrom_counts (typed : p.WellTyped) (index : Nat) (is : List (Instruction A))
    (suffix : ∀ k, is[k]? = p.instructions[index + k]?)
    (counted : p.CountableTo (p.inputs.size + index)) (seen : α) :
    Counts (p.followFrom watch p.lastUses index is (p.bytesWith index index) seen)
      ((∀ i ∈ is, i.shape.Countable) ∧
        ∀ moment ∈ List.range' (index + 1) is.length, p.liveBytes moment < wordLimit)
      (p.seenFrom watch index is seen) := by
  -- Before each instruction the count stands at the bytes that the earlier ones leave, and all
  -- values it can read have been counted.
  induction is generalizing index seen with
  | nil => exact (Counts.pure _).congr (by simp)
  | cons i rest ih =>
      have found : p.instructions[index]? = some i := (suffix 0).symm
      have inside : p.inputs.size + index ≤ p.numValues :=
        Nat.add_le_add_left (Nat.le_of_lt (Array.getElem?_eq_some_iff.mp found).1) _
      have stored : p.bytesWith index index + i.shape.bytes = p.liveBytes (index + 1) := by
        rw [liveBytes, p.bytesWith_store typed, bytesOf, p.valueShape?_instruction found]
        rfl
      have released (seen : α) : p.releaseBytes watch p.lastUses index i.op.operands.eraseDups
          (p.liveBytes (index + 1)) seen = .ok (p.bytesWith (index + 1) (index + 1),
            (p.releasedBy index i).foldl (fun seen v => watch.taken v seen) seen) := by
        rw [liveBytes, ← p.bytesWith_release typed found (index + 1) (Nat.le_succ index)]
        exact releaseBytes_eq watch inside counted _
          (fun v member => typed.ordered index i found v (List.mem_eraseDups.mp member)) _ seen
      have later := ih (index + 1) fun k => by
        rw [← List.getElem?_cons_succ, suffix, Nat.add_right_comm, Nat.add_assoc]
      rw [followFrom, List.length_cons, List.range'_succ]
      have conditions : ((∀ i' ∈ i :: rest, i'.shape.Countable) ∧
            ∀ moment ∈ (index + 1) :: List.range' (index + 1 + 1) rest.length,
              p.liveBytes moment < wordLimit) ↔
          i.shape.Countable ∧ p.liveBytes (index + 1) < wordLimit ∧
            (∀ i' ∈ rest, i'.shape.Countable) ∧
            ∀ moment ∈ List.range' (index + 1 + 1) rest.length,
              p.liveBytes moment < wordLimit := by
        rw [List.forall_mem_cons, List.forall_mem_cons, and_assoc,
          and_left_comm (a := ∀ i ∈ rest, _)]
      refine Counts.congr ((valueBytes_counts i.shape).bind fun size => ?_) conditions
      rw [stored]
      refine (Counts.checked _).bind fun _ => ?_
      rw [released, Halt.bind_ok]
      exact later (counted.succ found size) _

/-- Whether the live bytes of a program can be counted: the size of every value, and the most bytes
that are live at once. -/
def Countable (p : Program A) : Prop :=
  (∀ s ∈ p.shapes, s.Countable) ∧ p.peakBytes < wordLimit

/-- The sizes of all values together, counted in words. -/
def totalValueBytes (p : Program A) : Except Halt Nat := do
  let sizes ← p.shapes.mapM valueBytes
  checkedSum 0 sizes

theorem countable_of_totalValueBytes {total : Nat} (counted : p.totalValueBytes = .ok total) :
    p.Countable := by
  have counts : Counts p.totalValueBytes
      ((∀ s ∈ p.shapes, s.Countable) ∧ 0 + (p.shapes.map Shape.bytes).sum < wordLimit) _ :=
    (Counts.mapM valueBytes_counts p.shapes).bind fun _ =>
      checkedSum_counts 0 (p.shapes.map Shape.bytes) (by decide)
  obtain ⟨⟨sizes, fits⟩, -⟩ := counts.of_ok counted
  rw [Nat.zero_add] at fits
  exact ⟨sizes, p.peakBytes_le_totalBytes.trans_lt fits⟩

/-- A count of live bytes sees those of every moment, as long as they can be counted, and otherwise
overflows. -/
theorem follow_counts (typed : p.WellTyped) (seen : α) :
    Counts (p.follow watch seen) p.Countable
      (p.seenFrom watch 0 p.instructions.toList (watch.amount (p.liveBytes 0) seen)) := by
  have row : List.range (p.instructions.size + 1) =
      0 :: List.range' 1 p.instructions.toList.length := by
    rw [List.range_eq_range', List.range'_succ, Array.length_toList]
  have conditions : p.Countable ↔
      (∀ input ∈ p.inputs.toList, input.shape.Countable) ∧ p.liveBytes 0 < wordLimit ∧
        (∀ i ∈ p.instructions.toList, i.shape.Countable) ∧
        ∀ moment ∈ List.range' 1 p.instructions.toList.length, p.liveBytes moment < wordLimit := by
    have moments : p.peakBytes < wordLimit ↔
        ∀ moment ∈ List.range (p.instructions.size + 1), p.liveBytes moment < wordLimit := by
      rw [peakBytes, Finset.sup_lt_iff (by decide)]
      simp only [Finset.mem_range, List.mem_range]
    rw [Countable, moments, row, List.forall_mem_cons, shapes, List.forall_mem_append,
      List.forall_mem_map, List.forall_mem_map, and_assoc,
      and_left_comm (b := p.liveBytes 0 < wordLimit)]
  refine Counts.congr
    ((Counts.mapM (fun input => valueBytes_counts input.shape) p.inputs.toList).bind
      fun sizes => ?_) conditions
  have start := checkedSum_counts 0 (p.inputs.toList.map (·.shape.bytes)) (by decide)
  rw [Nat.zero_add, ← liveBytes_zero] at start
  refine start.bind fun _ => ?_
  have counted : p.CountableTo (p.inputs.size + 0) := by
    intro v before s shape
    rw [p.valueShape?_input before, Option.some.injEq] at shape
    exact shape ▸ sizes _ (Array.getElem_mem_toList before)
  exact followFrom_counts watch typed 0 p.instructions.toList (by simp) counted _

/-! ### The peak -/

theorem seenFrom_largest (index : Nat) (is : List (Instruction A)) (peak : Nat) :
    p.seenFrom .largest index is peak =
      ((List.range' (index + 1) is.length).map p.liveBytes).foldl max peak := by
  induction is generalizing index peak with
  | nil => rfl
  | cons i rest ih =>
      have kept (taken : List Nat) (peak : Nat) :
          taken.foldl (fun seen v => Watch.largest.taken v seen) peak = peak := by
        induction taken with
        | nil => rfl
        | cons v rest ih => exact ih
      rw [seenFrom, ih, kept, List.length_cons, List.range'_succ, List.map_cons, List.foldl_cons]
      rfl

theorem foldl_max_range (f : Nat → Nat) (n : Nat) :
    ((List.range n).map f).foldl max 0 = (Finset.range n).sup f := by
  induction n with
  | zero => rfl
  | succ n ih =>
      rw [List.range_succ, List.map_append, List.foldl_append, ih, Finset.range_add_one,
        Finset.sup_insert, sup_comm]
      rfl

theorem max?_liveBytes (p : Program A) :
    ((List.range (p.instructions.size + 1)).map p.liveBytes).max? = some p.peakBytes := by
  have nonempty : (Finset.range (p.instructions.size + 1)).Nonempty := ⟨0, by simp⟩
  obtain ⟨moment, member, reached⟩ := Finset.exists_mem_eq_sup _ nonempty p.liveBytes
  refine List.max?_eq_some_iff.mpr ⟨?_, fun amount found => ?_⟩
  · exact List.mem_map.mpr ⟨moment, List.mem_range.mpr (Finset.mem_range.mp member), reached.symm⟩
  · obtain ⟨moment, inside, rfl⟩ := List.mem_map.mp found
    exact Finset.le_sup (Finset.mem_range.mpr (List.mem_range.mp inside))

theorem peakLiveBytes_counts (typed : p.WellTyped) :
    Counts p.peakLiveBytes p.Countable p.peakBytes := by
  have counts := follow_counts .largest typed 0
  rw [seenFrom_largest] at counts
  rw [peakBytes, ← foldl_max_range, List.range_eq_range', List.range'_succ, ← Array.length_toList]
  exact counts

/-! ### The tally -/

/-- Keeps all amounts, and all values whose bytes are taken off. -/
def Watch.all : Watch (List Nat × List Nat) where
  amount live seen := (seen.1 ++ [live], seen.2)
  taken v seen := (seen.1, seen.2 ++ [v])

/-- All amounts that the count of live bytes comes to, from the start on, and all values that it
takes off. -/
def tally (p : Program A) : Except Halt (List Nat × List Nat) := p.follow .all ([], [])

/-- The values that instructions in order release, the first of which has the given index. -/
def takenFrom (p : Program A) : Nat → List (Instruction A) → List Nat
  | _, [] => []
  | index, i :: rest => p.releasedBy index i ++ takenFrom p (index + 1) rest

theorem seenFrom_all (index : Nat) (is : List (Instruction A)) (seen : List Nat × List Nat) :
    p.seenFrom .all index is seen =
      (seen.1 ++ (List.range' (index + 1) is.length).map p.liveBytes,
        seen.2 ++ p.takenFrom index is) := by
  have appended (taken : List Nat) (seen : List Nat × List Nat) :
      taken.foldl (fun seen v => Watch.all.taken v seen) seen = (seen.1, seen.2 ++ taken) := by
    induction taken generalizing seen with
    | nil => rw [List.foldl_nil, List.append_nil]
    | cons v rest ih => rw [List.foldl_cons, ih, Watch.all, List.append_assoc]; rfl
  induction is generalizing index seen with
  | nil => simp [seenFrom, takenFrom]
  | cons i rest ih =>
      rw [seenFrom, ih, appended, List.length_cons, List.range'_succ]
      simp [takenFrom, Watch.all]

/-- The tally has the live bytes of every moment, as long as they can be counted, and otherwise
overflows. -/
theorem tally_counts (typed : p.WellTyped) :
    Counts p.tally p.Countable
      ((List.range (p.instructions.size + 1)).map p.liveBytes,
        p.takenFrom 0 p.instructions.toList) := by
  have counts := follow_counts .all typed ([], [])
  rw [seenFrom_all] at counts
  rw [List.range_eq_range', List.range'_succ, ← Array.length_toList]
  exact counts

theorem dies_of_mem_takenFrom {index v : Nat} {is : List (Instruction A)}
    (taken : v ∈ p.takenFrom index is) : ∃ k, index ≤ k ∧ p.Dies k v := by
  induction is generalizing index with
  | nil => simp [takenFrom] at taken
  | cons i rest ih =>
      rcases List.mem_append.mp taken with now | later
      · exact ⟨index, Nat.le_refl _, p.dies_of_mem_releasedBy now⟩
      · obtain ⟨k, after, dies⟩ := ih later
        exact ⟨k, Nat.le_of_succ_le after, dies⟩

theorem nodup_takenFrom (index : Nat) (is : List (Instruction A)) :
    (p.takenFrom index is).Nodup := by
  induction is generalizing index with
  | nil => exact List.nodup_nil
  | cons i rest ih =>
      refine List.nodup_append.mpr ⟨p.nodup_releasedBy index i, ih (index + 1), ?_⟩
      intro v now w later same
      subst same
      obtain ⟨k, after, dies⟩ := dies_of_mem_takenFrom later
      have same := dies.index_unique (p.dies_of_mem_releasedBy now)
      omega

end Program

end Diffusion
