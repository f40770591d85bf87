import Mathlib.Data.List.Basic
import SecureElement.FileSystem
/-!
# Files that are written

What is written to a path is read back from it, unless the path leads to the null device. Writing puts a node only
where no directory is, so every walk that succeeded before still succeeds.
-/

namespace SecureElement

theorem Text.ofUtf8?_utf8Bytes (text : String) : ofUtf8? (utf8Bytes text) = some text := by
  have hbytes : ByteArray.mk (utf8Bytes text).toArray = text.toList.utf8Encode :=
    ByteArray.ext List.data_toByteArray.symm
  unfold ofUtf8?
  rw [hbytes, List.utf8Decode?_utf8Encode]
  simp

namespace FileSystem

variable {files : FileSystem} {place location : Location} {node : Node} {path : String}

theorem find?_put_self (hfree : fixed? place = none) : (files.put place node).find? place = some node := by
  simp [find?, put, hfree]

theorem find?_put_of_ne (hne : location ≠ place) : (files.put place node).find? location = files.find? location := by
  have hnodes : (files.nodes.filter (·.1 != place)).find? (·.1 == location) =
      files.nodes.find? (·.1 == location) := by
    rw [List.find?_filter]
    congr 1
    funext entry
    by_cases hentry : entry.1 = location
    · simp [hentry, hne]
    · simp [hentry]
  simp [find?, put, hne.symm, hnodes]

def Vacant (files : FileSystem) (place : Location) : Prop :=
  ∀ mode, files.find? place ≠ some (.directory mode)

theorem step_put (hvacant : files.Vacant place) {name : String} {next : Location}
    (h : files.step location name = .ok next) : (files.put place node).step location name = .ok next := by
  unfold step probe at h ⊢
  by_cases hdots : Location.isDots name
  · rw [if_pos hdots] at h ⊢
    exact h
  rw [if_neg hdots] at h ⊢
  by_cases hlong : (location.child name).names.getLast?.any (maxNameSize < ·.utf8ByteSize)
  · rw [if_pos hlong] at h
    cases h
  rw [if_neg hlong] at h ⊢
  cases hfind : files.find? (location.child name) with
  | none =>
    rw [hfind] at h
    cases h
  | some found =>
    rw [hfind] at h
    cases found with
    | file content mode => cases h
    | null => cases h
    | directory mode =>
      have hne : location.child name ≠ place := by
        rintro rfl
        exact hvacant mode hfind
      rw [find?_put_of_ne hne, hfind]
      exact h

theorem walk_put (hvacant : files.Vacant place) {steps : List String} {last : Location}
    (h : steps.foldlM files.step location = .ok last) :
    steps.foldlM (files.put place node).step location = .ok last := by
  induction steps generalizing location with
  | nil => exact h
  | cons name steps ih =>
    rw [List.foldlM_cons] at h ⊢
    cases hstep : files.step location name with
    | error error =>
      rw [hstep] at h
      cases h
    | ok next =>
      rw [hstep] at h
      rw [step_put hvacant hstep]
      exact ih h

theorem resolve_put (hvacant : files.Vacant place) {path : String} {target : Target}
    (h : files.resolve path = .ok target) : (files.put place node).resolve path = .ok target := by
  unfold resolve at h ⊢
  by_cases hzero : path.toList.contains '\x00'
  · rw [if_pos hzero] at h
    cases h
  rw [if_neg hzero] at h ⊢
  by_cases hempty : path = ""
  · rw [if_pos hempty] at h
    cases h
  rw [if_neg hempty] at h ⊢
  by_cases hlong : maxPathSize < path.utf8ByteSize
  · rw [if_pos hlong] at h
    cases h
  rw [if_neg hlong] at h ⊢
  cases hwalk : (Path.ofText path).steps.dropLast.foldlM files.step (.start (Path.ofText path)) with
  | error error =>
    dsimp only [bind, Except.bind, pure, Except.pure] at h
    rw [hwalk] at h
    cases h
  | ok around =>
    dsimp only [bind, Except.bind, pure, Except.pure] at h ⊢
    rw [hwalk] at h
    rw [walk_put hvacant hwalk]
    exact h

theorem fixed?_eq_none (hvacant : files.Vacant place) (hnull : files.find? place ≠ some .null) :
    fixed? place = none := by
  cases hfixed : fixed? place with
  | none => rfl
  | some node =>
    have hfind : files.find? place = some node := by
      rw [find?, hfixed]
      rfl
    unfold fixed? at hfixed
    split at hfixed
    · exact absurd (hfind.trans hfixed.symm) (hvacant _)
    · split at hfixed
      · exact absurd (hfind.trans hfixed.symm) (hvacant _)
      · cases hfixed
    · exact absurd (hfind.trans hfixed.symm) hnull
    · cases hfixed

theorem probe_eq_ok {found : Option Node} (h : files.probe place = .ok found) : files.find? place = found := by
  unfold probe at h
  split at h
  · cases h
  · exact Except.ok.inj h

theorem probe_put_self {found : Option Node} (h : files.probe place = .ok found) (hfree : fixed? place = none) :
    (files.put place node).probe place = .ok (some node) := by
  unfold probe at h ⊢
  split at h
  · cases h
  · next hshort => rw [if_neg hshort, find?_put_self hfree]

theorem lookup_eq {found : Option Node} (hresolve : files.resolve path = .ok (.entry place false))
    (hprobe : files.probe place = .ok found) :
    files.lookup path = found.elim (.error .notFound) .ok := by
  unfold lookup
  rw [hresolve]
  dsimp only [bind, Except.bind]
  rw [hprobe]
  match found with
  | none => rfl
  | some (.directory _) => rfl
  | some (.file _ _) => rfl
  | some .null => rfl

/-! ## Writing and reading back -/

def fileMode? (files : FileSystem) (path : String) : Option Nat :=
  match files.lookup path with
  | .ok (.file _ mode) => some mode
  | _ => none

theorem fileMode?_of_lookup {content : List UInt8} {mode : Nat} (h : files.lookup path = .ok (.file content mode)) :
    files.fileMode? path = some mode := by
  rw [fileMode?, h]

/-- Opening for writing leaves the null device as it is, or an empty file: one that was there with its mode, a new one
with the mode that is given. -/
theorem create_cases {files' : FileSystem} {mode : Nat} (h : files.create path mode = .ok files') :
    ∃ place found, files.resolve path = .ok (.entry place false) ∧ files.probe place = .ok found ∧
      ((found = some .null ∧ files' = files) ∨
        ∃ kept, ((found = none ∧ kept = mode) ∨ ∃ content, found = some (.file content kept)) ∧
          files' = files.put place (.file [] kept)) := by
  unfold create at h
  cases hresolve : files.resolve path with
  | error error =>
    rw [hresolve] at h
    cases h
  | ok target =>
    rw [hresolve] at h
    match target with
    | .directory => cases h
    | .entry place true => cases h
    | .entry place false =>
      dsimp only [bind, Except.bind] at h
      cases hprobe : files.probe place with
      | error error =>
        rw [hprobe] at h
        cases h
      | ok found =>
        rw [hprobe] at h
        refine ⟨place, found, rfl, hprobe, ?_⟩
        match found with
        | some (.directory _) => cases h
        | some .null => exact .inl ⟨rfl, (Except.ok.inj h).symm⟩
        | some (.file content kept) => exact .inr ⟨kept, .inr ⟨content, rfl⟩, (Except.ok.inj h).symm⟩
        | none => exact .inr ⟨mode, .inl ⟨rfl, rfl⟩, (Except.ok.inj h).symm⟩

/-- The end of a walk at which a file can be made or emptied. -/
structure Writable (files : FileSystem) (path : String) (place : Location) : Prop where
  resolve : files.resolve path = .ok (.entry place false)
  probe : ∃ found, files.probe place = .ok found
  vacant : files.Vacant place
  free : fixed? place = none

theorem Writable.put (h : files.Writable path place) (content : List UInt8) (mode : Nat) :
    (files.put place (.file content mode)).Writable path place := by
  obtain ⟨found, hprobe⟩ := h.probe
  refine ⟨resolve_put h.vacant h.resolve, ⟨_, probe_put_self hprobe h.free⟩, ?_, h.free⟩
  intro other hfind
  rw [find?_put_self h.free] at hfind
  cases hfind

theorem Writable.lookup_put (h : files.Writable path place) (content : List UInt8) (mode : Nat) :
    (files.put place (.file content mode)).lookup path = .ok (.file content mode) := by
  obtain ⟨found, hprobe⟩ := h.probe
  exact lookup_eq (resolve_put h.vacant h.resolve) (probe_put_self hprobe h.free)

theorem Writable.create (h : files.Writable path place) (mode : Nat) :
    ∃ files', files.create path mode = .ok files' := by
  obtain ⟨found, hprobe⟩ := h.probe
  have hfind := probe_eq_ok hprobe
  unfold FileSystem.create
  rw [h.resolve]
  dsimp only [bind, Except.bind, pure, Except.pure]
  rw [hprobe]
  match found with
  | some (.directory mode) => exact absurd hfind (h.vacant mode)
  | some (.file _ kept) => exact ⟨_, rfl⟩
  | some .null => exact ⟨_, rfl⟩
  | none => exact ⟨_, rfl⟩

theorem exists_writable {files' : FileSystem} {mode : Nat} (h : files.create path mode = .ok files')
    (hnull : files.lookup path ≠ .ok .null) :
    ∃ place, files.Writable path place ∧ files' = files.put place (.file [] ((files.fileMode? path).getD mode)) := by
  obtain ⟨place, found, hresolve, hprobe, ⟨rfl, _⟩ | ⟨kept, hfound, rfl⟩⟩ := create_cases h
  · exact absurd (lookup_eq hresolve hprobe) hnull
  have hlookup := lookup_eq hresolve hprobe
  have hfind := probe_eq_ok hprobe
  have hvacant : files.Vacant place := by
    intro mode
    rw [hfind]
    rcases hfound with ⟨rfl, _⟩ | ⟨_, rfl⟩ <;> exact nofun
  have hfree : fixed? place = none := by
    apply fixed?_eq_none hvacant
    rw [hfind]
    rcases hfound with ⟨rfl, _⟩ | ⟨_, rfl⟩ <;> exact nofun
  have hkept : (files.fileMode? path).getD mode = kept := by
    rcases hfound with ⟨rfl, rfl⟩ | ⟨content, rfl⟩
    · rw [fileMode?, hlookup]
      rfl
    · rw [fileMode?_of_lookup hlookup]
      rfl
  rw [hkept]
  exact ⟨place, ⟨hresolve, ⟨found, hprobe⟩, hvacant, hfree⟩, rfl⟩

theorem write_null {files' : FileSystem} {mode : Nat} {bytes : List UInt8}
    (h : files.write path mode bytes = .ok files') (hnull : files.lookup path = .ok .null) : files' = files := by
  unfold write at h
  cases hcreate : files.create path mode with
  | error error =>
    rw [hcreate] at h
    cases h
  | ok emptied =>
    rw [hcreate] at h
    obtain rfl : emptied.overwrite path bytes = files' := Except.ok.inj h
    obtain ⟨place, found, hresolve, hprobe, ⟨rfl, rfl⟩ | ⟨_, hfound, _⟩⟩ := create_cases hcreate
    · unfold overwrite
      rw [hresolve]
      dsimp only
      rw [probe_eq_ok hprobe]
    · rw [lookup_eq hresolve hprobe] at hnull
      rcases hfound with ⟨rfl, _⟩ | ⟨_, rfl⟩ <;> cases hnull

theorem readText_null (hnull : files.lookup path = .ok .null) : files.readText path = .ok "" := by
  have hempty : Text.ofUtf8? [] = some "" := Text.ofUtf8?_utf8Bytes ""
  have hread : files.read path = .ok [] := by
    unfold read
    rw [hnull]
    rfl
  unfold readText
  rw [hread]
  dsimp only [bind, Except.bind]
  rw [hempty]
  rfl

/-- What is written to a path lies there, in a file that can be written again. -/
theorem lookup_write {files' : FileSystem} {mode : Nat} {bytes : List UInt8}
    (h : files.write path mode bytes = .ok files') (hnull : files.lookup path ≠ .ok .null) :
    files'.lookup path = .ok (.file bytes ((files.fileMode? path).getD mode)) ∧
      ∃ place, files'.Writable path place := by
  unfold write at h
  cases hcreate : files.create path mode with
  | error error =>
    rw [hcreate] at h
    cases h
  | ok emptied =>
    rw [hcreate] at h
    obtain rfl := Except.ok.inj h
    obtain ⟨place, hwritable, rfl⟩ := exists_writable hcreate hnull
    generalize (files.fileMode? path).getD mode = kept
    have hopen := hwritable.put [] kept
    unfold overwrite
    rw [hopen.resolve]
    dsimp only
    rw [find?_put_self hwritable.free]
    dsimp only
    rw [List.drop_nil, List.append_nil]
    exact ⟨hopen.lookup_put bytes kept, place, hopen.put bytes kept⟩

theorem read_write {files' : FileSystem} {mode : Nat} {bytes : List UInt8}
    (h : files.write path mode bytes = .ok files') (hnull : files.lookup path ≠ .ok .null) :
    files'.read path = .ok bytes := by
  rw [read, (lookup_write h hnull).1]
  rfl

theorem readText_write {files' : FileSystem} {mode : Nat} {text : String}
    (h : files.write path mode (Text.utf8Bytes text) = .ok files') (hnull : files.lookup path ≠ .ok .null) :
    files'.readText path = .ok text := by
  unfold readText
  rw [read_write h hnull]
  dsimp only [bind, Except.bind]
  rw [Text.ofUtf8?_utf8Bytes]
  rfl

end FileSystem

end SecureElement
