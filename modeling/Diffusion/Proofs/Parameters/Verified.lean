import Diffusion.Proofs.Parameters.Stored

/-!
What is accepted as parameters.

Of a container only blobs that an entry notes are taken, and only if all entries are verified. Main
statements: `accepted_of_ofContainer` and `only_ofContainer`.
-/

namespace Diffusion

/-- A result that is no error but one of this kind. -/
def Error.Only (code : ErrorCode) {α : Type} (r : Except Error α) : Prop :=
  ∀ e, r = .error e → e.code = code

section

variable {code : ErrorCode} {α β : Type}

theorem Error.only_ok (a : α) : Only code (.ok a) := nofun

theorem Error.only_error {e : Error} (kind : e.code = code) :
    Only code (.error e : Except Error α) := by
  rintro _ ⟨⟩
  exact kind

theorem Error.Only.bind {r : Except Error α} {f : α → Except Error β} (first : Only code r)
    (rest : ∀ a, r = .ok a → Only code (f a)) : Only code (r >>= f) := by
  cases r with
  | error e => exact only_error (first e rfl)
  | ok a => exact rest a rfl

theorem Error.only_mapM {f : α → Except Error β} {xs : List α} (each : ∀ x, Only code (f x)) :
    Only code (xs.mapM f) := by
  induction xs with
  | nil => exact only_ok []
  | cons x rest ih =>
      rw [List.mapM_cons]
      exact (each x).bind fun y _ => ih.bind fun ys _ => only_ok (y :: ys)

/-- Each item has its answer among the answers, and each answer its item. -/
theorem mem_of_mapM_ok {f : α → Except Error β} {xs : List α} {ys : List β}
    (mapped : xs.mapM f = .ok ys) :
    (∀ x ∈ xs, ∃ y ∈ ys, f x = .ok y) ∧ ∀ y ∈ ys, ∃ x ∈ xs, f x = .ok y := by
  induction xs generalizing ys with
  | nil =>
      cases mapped
      simp
  | cons x rest ih =>
      rw [List.mapM_cons] at mapped
      obtain ⟨y, first, mapped⟩ := Halt.bind_eq_ok_iff.mp mapped
      obtain ⟨later, others, same⟩ := Halt.bind_eq_ok_iff.mp mapped
      cases same
      obtain ⟨answers, items⟩ := ih others
      simp only [List.mem_cons, forall_eq_or_imp, exists_eq_or_imp]
      exact ⟨⟨.inl first, fun x member => .inr (answers x member)⟩, .inl first,
        fun y member => .inr (items y member)⟩

end

namespace Parameters

theorem mem_keys_insertBlob {key other : String} {bytes : ByteArray} {blobs : List Blob} :
    other ∈ (insertBlob key bytes blobs).map (·.1) ↔ other = key ∨ other ∈ blobs.map (·.1) := by
  induction blobs with
  | nil => simp [insertBlob]
  | cons first rest ih =>
      obtain ⟨here, old⟩ := first
      rw [insertBlob]
      split
      · simp
      · split
        · rename_i same
          simp [same]
        · rw [List.map_cons, List.mem_cons, ih, List.map_cons, List.mem_cons]
          exact or_left_comm

/-- Of several blobs under one key some are lost, but no key is, and no blob is made up. -/
theorem foldl_insert_spec (blobs : List Blob) (done : Parameters) :
    let p := blobs.foldl (fun p (key, bytes) => p.insert key bytes) done
    (∀ b ∈ p.blobs, b ∈ done.blobs ∨ b ∈ blobs) ∧
      ∀ key, key ∈ p.blobs.map (·.1) ↔ key ∈ done.blobs.map (·.1) ∨ key ∈ blobs.map (·.1) := by
  induction blobs generalizing done with
  | nil => simp
  | cons first rest ih =>
      obtain ⟨members, keys⟩ := ih (done.insert first.1 first.2)
      refine ⟨fun b member => ?_, fun key => ?_⟩
      · rcases members b member with put | later
        · rcases mem_insertBlob put with same | before
          · exact .inr (same ▸ List.mem_cons_self)
          · exact .inl before
        · exact .inr (List.mem_cons_of_mem _ later)
      · rw [List.foldl_cons, keys, insert, mem_keys_insertBlob, List.map_cons, List.mem_cons]
        exact or_assoc.trans or_left_comm

theorem mem_ofList {blobs : List Blob} {b : Blob} (member : b ∈ (ofList blobs).blobs) :
    b ∈ blobs :=
  ((foldl_insert_spec blobs empty).1 b member).resolve_left List.not_mem_nil

theorem mem_keys_ofList {blobs : List Blob} {key : String} :
    key ∈ (ofList blobs).blobs.map (·.1) ↔ key ∈ blobs.map (·.1) :=
  ((foldl_insert_spec blobs empty).2 key).trans (or_iff_right List.not_mem_nil)

/-- What holds of the parameters that entries and a container give. -/
structure Accepted (c : Container) (entries : List ParameterEntry) (p : Parameters) : Prop where
  allowed : ∀ e ∈ entries, e.key ∈ allowedKeys
  verified : ∀ e ∈ entries, ∃ bytes, blobOf c e = .ok bytes
  keys : ∀ key, key ∈ p.blobs.map (·.1) ↔ key ∈ entries.map (·.key)
  noted : ∀ b ∈ p.blobs, ∃ e ∈ entries, e.key = b.1 ∧ blobOf c e = .ok b.2

theorem accepted_of_ofContainer {c : Container} {entries : List ParameterEntry} {p : Parameters}
    (answered : ofContainer c entries = .ok p) : Accepted c entries p := by
  obtain ⟨_, allowed, rest⟩ := Halt.bind_eq_ok_iff.mp answered
  obtain ⟨blobs, mapped, same⟩ := Halt.bind_eq_ok_iff.mp rest
  cases same
  obtain ⟨answers, items⟩ := mem_of_mapM_ok mapped
  have pair : ∀ e b, (do return (e.key, ← blobOf c e)) = Except.ok b →
      e.key = b.1 ∧ blobOf c e = .ok b.2 := by
    intro e b answer
    obtain ⟨bytes, found, same⟩ := Halt.bind_eq_ok_iff.mp answer
    cases same
    exact ⟨rfl, found⟩
  have verified : ∀ e ∈ entries, ∃ b ∈ blobs, e.key = b.1 ∧ blobOf c e = .ok b.2 :=
    fun e member => (answers e member).imp fun b found => ⟨found.1, pair e b found.2⟩
  have noted : ∀ b ∈ blobs, ∃ e ∈ entries, e.key = b.1 ∧ blobOf c e = .ok b.2 :=
    fun b member => (items b member).imp fun e found => ⟨found.1, pair e b found.2⟩
  refine ⟨ParameterEntry.checkKeys_eq_ok_iff.mp allowed, fun e member => ?_, fun key => ?_,
    fun b member => noted b (mem_ofList member)⟩
  · obtain ⟨b, -, -, found⟩ := verified e member
    exact ⟨b.2, found⟩
  · rw [mem_keys_ofList, List.mem_map, List.mem_map]
    constructor
    · rintro ⟨b, member, rfl⟩
      obtain ⟨e, among, same, -⟩ := noted b member
      exact ⟨e, among, same⟩
    · rintro ⟨e, member, rfl⟩
      obtain ⟨b, among, same, -⟩ := verified e member
      exact ⟨b, among, same.symm⟩

theorem only_blobOf (c : Container) (e : ParameterEntry) :
    Error.Only .artifactInvalid (blobOf c e) := by
  have verify : ∀ bytes, Error.Only .artifactInvalid (e.verify bytes) := by
    intro bytes
    unfold ParameterEntry.verify
    split
    · exact Error.only_error rfl
    · dsimp only
      split
      · exact Error.only_error rfl
      · exact Error.only_ok ()
  unfold blobOf
  split
  · exact Error.only_error rfl
  · exact (verify _).bind fun _ _ => Error.only_ok _

theorem only_ofContainer (c : Container) (entries : List ParameterEntry) :
    Error.Only .artifactInvalid (ofContainer c entries) := by
  have keys : Error.Only .artifactInvalid (ParameterEntry.checkKeys entries) := by
    unfold ParameterEntry.checkKeys
    split
    · exact Error.only_error rfl
    · exact Error.only_ok ()
  refine keys.bind fun _ _ => Error.Only.bind (Error.only_mapM fun e => ?_) fun _ _ =>
    Error.only_ok _
  exact (only_blobOf c e).bind fun bytes _ => Error.only_ok (e.key, bytes)

end Parameters

end Diffusion
