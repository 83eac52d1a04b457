import Diffusion.Artifact.Load
import Diffusion.Proofs.Artifact.RoundTrip
import Diffusion.Proofs.Files.Host
import Diffusion.Proofs.Parameters.Verified

/-!
What is loaded, and where it is from.

Files may hold anything. What is loaded of them was checked all the same, and its parameters are
from one container only: the artifact itself, or an archive. Main statements: `loads_iff` and
`load_sound`.
-/

namespace Diffusion

namespace World

/-- Whether a file is a container. -/
def Holds (w : World) (path : String) (c : Container) : Prop :=
  ∃ bytes, w.tree.read w.directory path = .ok bytes ∧ Container.read bytes = .ok c

theorem holds_unique {w : World} {path : String} {c other : Container} (holds : w.Holds path c)
    (holdsToo : w.Holds path other) : c = other := by
  obtain ⟨bytes, found, read⟩ := holds
  obtain ⟨others, foundToo, readToo⟩ := holdsToo
  cases found.symm.trans foundToo
  cases read.symm.trans readToo
  rfl

/-- Whether parameters are to be taken from a container: the artifact's own, or that of an archive,
if one is named. -/
def Supplies (w : World) (mode : WeightsMode) (own : Container) (archive : Option String)
    (c : Container) : Prop :=
  match mode with
  | .inside => c = own
  | .outside => ∃ file, archive = some file ∧ w.Holds file c

end World

/-- Reading an archive answers with what its container gives, or with an error of one kind. -/
theorem Parameters.run_readArchive (file : String) (entries : List ParameterEntry) (w : World) :
    ∃ answer : Except Error Parameters,
      (readArchive World.host file entries).run w = (answer.mapError .error, w) ∧
      Error.Only .artifactInvalid answer ∧
      ∀ p, answer = .ok p ↔ ∃ c, w.Holds file c ∧ ofContainer c entries = .ok p := by
  have asked := World.read_run file w
  cases found : w.tree.read w.directory file with
  | error fault =>
      refine ⟨.error (.archiveUnreadable file fault), ?_, Error.only_error rfl, fun p => ?_⟩
      · rw [found] at asked
        exact Job.run_bind_error (Job.run_file_error asked)
      · simp [World.Holds, found]
  | ok bytes =>
      rw [found] at asked
      unfold readArchive
      rw [Job.run_bind_ok (Job.run_file_ok asked)]
      cases reads : Container.read bytes with
      | error fault =>
          refine ⟨.error (.notAnArchive file fault), rfl, Error.only_error rfl, fun p => ?_⟩
          simp [World.Holds, found, reads]
      | ok c =>
          refine ⟨ofContainer c entries, rfl, only_ofContainer c entries, fun p => ?_⟩
          simp [World.Holds, found, reads]

namespace LoadedArtifact

variable {A : Arithmetic}

/-- Whether loading ends well on a machine, and with what. -/
def Loads (w : World) (path : String) (device : Device) (archive : Option String)
    (loaded : LoadedArtifact A) : Prop :=
  ∃ after, (load World.host path device archive).run w = (.ok loaded, after)

theorem run_load {w : World} {path : String} {device : Device} {archive : Option String}
    {bytes : ByteArray} {m : Manifest A} {inside : Option Parameters}
    (found : w.tree.read w.directory path = .ok bytes)
    (parsed : Artifact.parse bytes = .ok (m, inside)) (fits : m.target.device = device) :
    (load World.host path device archive).run w =
      (resolve World.host m inside archive >>= fun parameters => do
        Job.call <| World.host.log <|
          .artifactLoaded path device.text m.weightsMode.text m.program.calls
        return ({ manifest := m, parameters, device } : LoadedArtifact A)).run w := by
  have reads : World.host.read path w = (.ok bytes, w) := by rw [World.read_run, found]
  unfold load
  rw [Job.run_bind_ok (Job.run_file_ok reads), parsed, Job.ofExcept_ok_bind]
  dsimp only
  rw [if_neg (not_not_intro fits)]

theorem of_loads {w : World} {path : String} {device : Device} {archive : Option String}
    {loaded : LoadedArtifact A} (loads : Loads w path device archive loaded) :
    loaded.manifest.target.device = device ∧ loaded.device = device ∧
    ∃ bytes inside after, w.tree.read w.directory path = .ok bytes ∧
      Artifact.parse bytes = .ok (loaded.manifest, inside) ∧
      (resolve World.host loaded.manifest inside archive).run w =
        (.ok loaded.parameters, after) := by
  obtain ⟨after, ran⟩ := loads
  obtain ⟨bytes, _, reads, opened⟩ := Job.of_bind_ok ran
  have read := Job.of_file_ok reads
  rw [World.read_run] at read
  obtain ⟨found, rfl⟩ := Prod.mk.inj read
  obtain ⟨⟨manifest, inside⟩, _, parses, checked⟩ := Job.of_bind_ok opened
  obtain ⟨parsed, rfl⟩ := Job.of_ofExcept_ok parses
  dsimp only at checked
  split at checked
  · obtain ⟨_, _, impossible, -⟩ := Job.of_bind_ok checked
    cases impossible
  · rename_i fits
    obtain ⟨parameters, between, resolved, logged⟩ := Job.of_bind_ok checked
    obtain ⟨_, _, -, same⟩ := Job.of_bind_ok logged
    cases same
    exact ⟨not_not.mp fits, rfl, bytes, inside, between, found, parsed, resolved⟩

theorem of_load_ok {path : String} {device : Device} {archive : Option String}
    {before after : World} {loaded : LoadedArtifact A}
    (ran : (load World.host path device archive).run before = (.ok loaded, after)) :
    ∃ bytes inside, before.tree.read before.directory path = .ok bytes ∧
      Artifact.parse bytes = .ok (loaded.manifest, inside) := by
  obtain ⟨-, -, bytes, inside, -, found, parsed, -⟩ := of_loads ⟨after, ran⟩
  exact ⟨bytes, inside, found, parsed⟩

/-- An artifact that is in a file, with its parameters inside, is loaded for its device. -/
theorem loads_of_parsed {path : String} {device : Device} {archive : Option String}
    {bytes : ByteArray} {m : Manifest A} {parameters : Parameters} {w : World}
    (found : w.tree.read w.directory path = .ok bytes)
    (parsed : Artifact.parse bytes = .ok (m, some parameters)) (fits : m.target.device = device) :
    Loads w path device archive ⟨m, parameters, device⟩ := by
  rw [Loads, run_load found parsed fits]
  exact ⟨_, rfl⟩

theorem exists_load {path : String} {archive : Option String} {bytes : ByteArray} {m : Manifest A}
    {parameters : Parameters} {w : World} (found : w.tree.read w.directory path = .ok bytes)
    (parsed : Artifact.parse bytes = .ok (m, some parameters)) :
    ∃ (loaded : LoadedArtifact A) (after : World),
      (load World.host path m.target.device archive).run w = (.ok loaded, after) :=
  ⟨_, loads_of_parsed found parsed rfl⟩

/-- How loading ends where the parameters are in an archive: as the archive lets it. -/
theorem run_load_archive {w : World} {path : String} {device : Device} {bytes : ByteArray}
    {m : Manifest A} (found : w.tree.read w.directory path = .ok bytes)
    (parsed : Artifact.parse bytes = .ok (m, none)) (fits : m.target.device = device)
    (file : String) :
    (∃ e, e.code = .artifactInvalid ∧
      (load (A := A) World.host path device (some file)).run w = (.error (.error e), w) ∧
      ∀ p c, w.Holds file c → Parameters.ofContainer c m.weights ≠ .ok p) ∨
    ∃ p c, w.Holds file c ∧ Parameters.ofContainer c m.weights = .ok p ∧
      Loads w path device (some file) ⟨m, p, device⟩ := by
  obtain ⟨answer, ran, kind, gives⟩ := Parameters.run_readArchive file m.weights w
  have resolved : (resolve World.host m none (some file)).run w =
      (answer.mapError .error, w) := ran
  cases answer with
  | error e =>
      refine .inl ⟨e, kind e rfl, ?_, fun p c holds blobs => ?_⟩
      · rw [run_load found parsed fits]
        exact Job.run_bind_error resolved
      · cases (gives p).mpr ⟨c, holds, blobs⟩
  | ok p =>
      obtain ⟨c, holds, blobs⟩ := (gives p).mp rfl
      refine .inr ⟨p, c, holds, blobs, ?_⟩
      rw [Loads, run_load found parsed fits, Job.run_bind_ok resolved]
      exact ⟨_, rfl⟩

theorem loads_of_archive {w : World} {path file : String} {device : Device} {bytes : ByteArray}
    {m : Manifest A} {c : Container} {parameters : Parameters}
    (found : w.tree.read w.directory path = .ok bytes)
    (parsed : Artifact.parse bytes = .ok (m, none)) (fits : m.target.device = device)
    (holds : w.Holds file c) (blobs : Parameters.ofContainer c m.weights = .ok parameters) :
    Loads w path device (some file) ⟨m, parameters, device⟩ := by
  rcases run_load_archive found parsed fits file with ⟨_, -, -, refuses⟩ | accepts
  · exact absurd blobs (refuses parameters c holds)
  · obtain ⟨p, other, holdsToo, given, loads⟩ := accepts
    cases World.holds_unique holds holdsToo
    cases blobs.symm.trans given
    exact loads

/-- Loading ends well exactly if the manifest of the artifact passes its checks, for this device,
and its entries those of the container that supplies the parameters. -/
theorem loads_iff {w : World} {path : String} {device : Device} {archive : Option String}
    {loaded : LoadedArtifact A} :
    Loads w path device archive loaded ↔
      loaded.manifest.target.device = device ∧ loaded.device = device ∧
      ∃ own texts c, w.Holds path own ∧ own.metadata = some texts ∧
        Manifest.ofTexts texts = .ok loaded.manifest ∧
        w.Supplies loaded.manifest.weightsMode own archive c ∧
        Parameters.ofContainer c loaded.manifest.weights = .ok loaded.parameters := by
  constructor
  · intro loads
    obtain ⟨fits, same, bytes, inside, after, found, parsed, resolved⟩ := of_loads loads
    obtain ⟨own, texts, opened, held, manifest, given⟩ := Artifact.parse_eq_ok_iff.mp parsed
    refine ⟨fits, same, own, texts, ?_⟩
    cases mode : loaded.manifest.weightsMode with
    | inside =>
        rw [mode] at given
        obtain ⟨p, blobs, rfl⟩ := given
        cases resolved
        exact ⟨own, ⟨bytes, found, opened⟩, held, manifest, rfl, blobs⟩
    | outside =>
        rw [mode] at given
        obtain rfl := given
        cases archive with
        | none => cases resolved
        | some file =>
            obtain ⟨answer, ran, -, gives⟩ :=
              Parameters.run_readArchive file loaded.manifest.weights w
            have answered : answer.mapError Halt.error = .ok loaded.parameters :=
              congrArg Prod.fst (ran.symm.trans resolved)
            obtain ⟨c, holds, blobs⟩ :=
              (gives loaded.parameters).mp (Halt.ofResult_eq_ok_iff.mp answered)
            exact ⟨c, ⟨bytes, found, opened⟩, held, manifest, ⟨file, rfl, holds⟩, blobs⟩
  · rintro ⟨fits, same, own, texts, c, ⟨bytes, found, opened⟩, held, manifest, supplies, blobs⟩
    obtain ⟨m, parameters, _⟩ := loaded
    obtain rfl : _ = device := same
    dsimp only at *
    cases mode : m.weightsMode with
    | inside =>
        rw [mode] at supplies
        obtain rfl : c = own := supplies
        have parsed : Artifact.parse bytes = .ok (m, some parameters) :=
          Artifact.parse_eq_ok_iff.mpr
            ⟨c, texts, opened, held, manifest, by rw [mode]; exact ⟨parameters, blobs, rfl⟩⟩
        exact loads_of_parsed found parsed fits
    | outside =>
        rw [mode] at supplies
        obtain ⟨file, rfl, holds⟩ := supplies
        have parsed : Artifact.parse bytes = .ok (m, none) :=
          Artifact.parse_eq_ok_iff.mpr ⟨own, texts, opened, held, manifest, by rw [mode]⟩
        exact loads_of_archive found parsed fits holds blobs

/-- Whatever the files hold: a loaded program is valid, it is for the device that was asked for, and
the parameters are under keys of a network, those of the manifest's entries, each of the size and
with the fingerprint that an entry with its key notes. They are tensors of one container, and
nothing but its tensors and the texts of the artifact's header matters for what is loaded. -/
theorem load_sound {path : String} {device : Device} {archive : Option String}
    {before after : World} {loaded : LoadedArtifact A}
    (ran : (load World.host path device archive).run before = (.ok loaded, after)) :
    let m := loaded.manifest
    m.program.Valid ∧ m.target.device = device ∧ loaded.device = device ∧
    (∀ b ∈ loaded.parameters.blobs, b.1 ∈ Parameters.allowedKeys) ∧
    (∀ key, key ∈ loaded.parameters.blobs.map (·.1) ↔ key ∈ m.weights.map (·.key)) ∧
    ∃ own c, before.Holds path own ∧ before.Supplies m.weightsMode own archive c ∧
      (∀ b ∈ loaded.parameters.blobs, ∃ e ∈ m.weights,
        e.key = b.1 ∧ b.2.size = e.size ∧ Bytes.fingerprint b.2 = e.sha256 ∧
          c.tensor e.storageName = .ok b.2) ∧
      ∀ w twin other, w.Holds path twin → twin.metadata = own.metadata →
        w.Supplies m.weightsMode twin other c → Loads w path device other loaded := by
  obtain ⟨fits, same, own, texts, c, holds, held, manifest, supplies, blobs⟩ :=
    loads_iff.mp ⟨after, ran⟩
  have accepted := Parameters.accepted_of_ofContainer blobs
  refine ⟨(Manifest.program_of_ofTexts manifest).2, fits, same, fun b member => ?_,
    accepted.keys, own, c, holds, supplies, fun b member => ?_,
    fun w twin other there alike supplied => ?_⟩
  · obtain ⟨e, among, key, -⟩ := accepted.noted b member
    exact key ▸ accepted.allowed e among
  · obtain ⟨e, among, key, found⟩ := accepted.noted b member
    obtain ⟨tensor, notes⟩ := Parameters.blobOf_eq_ok_iff.mp found
    exact ⟨e, among, key, notes.size, notes.sha256, tensor⟩
  · exact loads_iff.mpr
      ⟨fits, same, twin, texts, c, there, alike.trans held, manifest, supplied, blobs⟩

theorem load_sound_capped :
    ∃ (before after : World) (loaded : LoadedArtifact Artifact.capped),
      (load World.host "a" .cpu none).run before = (.ok loaded, after) ∧
      loaded.manifest.program.Valid ∧ loaded.parameters = Artifact.smallGraph ∧
      ∀ b ∈ Artifact.smallGraph.blobs, ∃ e ∈ loaded.manifest.weights,
        e.key = b.1 ∧ b.2.size = e.size ∧ Bytes.fingerprint b.2 = e.sha256 := by
  obtain ⟨-, p, artifact, -, -, compiled, words, finite, short⟩ :=
    Artifact.exists_compile_capped (show 2 ∈ [2, 1000000] by decide)
  have keys : ∀ b ∈ Artifact.smallGraph.blobs, b.1 ∈ Parameters.allowedKeys := by decide
  have parsed := Artifact.parse_of_inside Artifact.capped_readsBack.readsNumerals
    Artifact.capped_writesNumerals rfl keys words (finite.mpr (by decide)) compiled short
  let w := World.ofFiles [("a", artifact.bytes)]
  have found : w.tree.read w.directory "a" = .ok artifact.bytes :=
    World.read_letter (by simp) rfl
  have cpu : artifact.manifest.reread.target.device = .cpu := by
    obtain ⟨-, peak, -, made⟩ :=
      Artifact.manifestOf_eq_ok (Artifact.manifestOf_of_compile compiled)
    rw [made]
    rfl
  obtain ⟨after, ran⟩ :
      Loads w "a" .cpu none ⟨artifact.manifest.reread, Artifact.smallGraph, .cpu⟩ :=
    loads_of_parsed found parsed cpu
  obtain ⟨valid, -, -, -, -, _, _, -, -, noted, -⟩ := load_sound ran
  refine ⟨w, after, _, ran, valid, rfl, fun b member => ?_⟩
  obtain ⟨e, among, key, size, print, -⟩ := noted b member
  exact ⟨e, among, key, size, print⟩

end LoadedArtifact

end Diffusion
