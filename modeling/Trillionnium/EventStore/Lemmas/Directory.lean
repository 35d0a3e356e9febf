import Trillionnium.Data.Sort
import Trillionnium.EventStore.Lemmas.Scan

/-!
The segments and sidecars of a store are found in its directory, in whatever order the directory is
listed.
-/

namespace EventStore

open Json List

variable {directory : Directory}

section FileName

theorem stripPrefix_append : stripPrefix pre (pre ++ cs) = some cs := by
  unfold stripPrefix
  rw [if_pos ( isPrefixOf_iff_prefix.mpr (prefix_append pre cs)), drop_left]

theorem stripSuffix_append (cs suffix : List Char) : stripSuffix suffix (cs ++ suffix) = some cs := by
  unfold stripSuffix
  rw [if_pos (isSuffixOf_iff_suffix.mpr (suffix_append cs suffix)), length_append]
  simp

theorem parseSegmentFileName_segmentFileName {id : Nat} (hpos : 0 < id) (hlt : id < 2 ^ 64) :
    parseSegmentFileName (segmentFileName id) = some id := by
  have hvalue : Nat.ofDigitChars 10
      (replicate (20 - (Nat.toDigits 10 id).length) '0' ++ Nat.toDigits 10 id) 0 = id := by
    rw [Nat.ofDigitChars_append, Nat.ofDigitChars_replicate_zero, Nat.mul_zero]
    exact Nat.ofDigitChars_toDigits (by decide) (by decide)
  have hdigits : (replicate (20 - (Nat.toDigits 10 id).length) '0' ++ Nat.toDigits 10 id).all
      Char.isDigit = true := by
    rw [all_append, Bool.and_eq_true, all_replicate, all_eq_true]
    refine ⟨?_, fun c hc => Nat.isDigit_of_mem_toDigits (by decide) (by decide) hc⟩
    split
    . rfl
    . rfl
  unfold parseSegmentFileName segmentFileName
  simp only [String.toList_ofList]
  rw [stripPrefix_append]
  simp only [Option.bind_eq_bind, Option.bind_some]
  rw [stripSuffix_append]
  simp only [Option.bind_some]
  rw [if_neg, hvalue, if_pos ⟨hpos, hlt⟩]
  simp [hdigits, Nat.toDigits_ne_nil]

end FileName

section Collect

def segmentFiles (directory : Directory) : List OpenSegment :=
  directory.filterMap (fun (name, file) =>
    (parseSegmentFileName name).map (fun id => { id := id, path := name, file := file }))

def WellNamed (entry : String × Bytes) : Prop :=
  parseSegmentFileName entry.1 = none → segmentFilePrefix.toList.isPrefixOf entry.1.toList = false

theorem collectSegments_eq {found : List OpenSegment}
    (hnames : ∀ entry ∈ directory, WellNamed entry)
    (hlength : found.length + (segmentFiles directory).length ≤ maxEventSegments) :
    collectSegments found directory = .ok (found ++ segmentFiles directory) := by
  induction directory generalizing found with
  | nil => simp [collectSegments, segmentFiles]
  | cons entry directory ih =>
    obtain ⟨name, file⟩ := entry
    have hnames' : ∀ entry ∈ directory, WellNamed entry := fun entry hentry =>
      hnames entry (by simp [hentry])
    unfold collectSegments
    cases hparse : parseSegmentFileName name with
    | none =>
      have hfiles : segmentFiles ((name, file) :: directory) = segmentFiles directory := by
        simp [segmentFiles, hparse]
      rw [hfiles] at hlength ⊢
      simp only
      rw [if_neg (by simp [hnames (name, file) (by simp) hparse])]
      exact ih hnames' hlength
    | some id =>
      have hfiles : segmentFiles ((name, file) :: directory)
          = { id := id, path := name, file := file } :: segmentFiles directory := by
        simp [segmentFiles, hparse]
      rw [hfiles, length_cons] at hlength
      rw [hfiles]
      simp only
      rw [if_neg (by omega), ih hnames' (by simp; omega)]
      simp

end Collect

structure Numbered (segments : List OpenSegment) : Prop where
  contiguous : contiguousFrom 1 segments = true
  path_eq : ∀ segment ∈ segments, segment.path = segmentFileName segment.id
  length_le : segments.length ≤ maxEventSegments

theorem contiguousFrom_bounds {first : Nat} {segments : List OpenSegment}
    (h : contiguousFrom first segments = true) :
    (∀ segment ∈ segments, first ≤ segment.id ∧ segment.id < first + segments.length)
    ∧ segments.Pairwise (fun a b => a.id < b.id) := by
  induction segments generalizing first with
  | nil => simp
  | cons segment segments ih =>
    rw [contiguousFrom, Bool.and_eq_true, beq_iff_eq] at h
    obtain ⟨hbounds, hpairwise⟩ := ih h.2
    have hid := h.1
    constructor
    . intro other hother
      rw [length_cons]
      cases mem_cons.mp hother with
      | inl heq =>
        rw [heq]
        omega
      | inr hmem =>
        have := hbounds other hmem
        omega
    . rw [pairwise_cons]
      refine ⟨fun other hother => ?_, hpairwise⟩
      have := hbounds other hother
      omega

abbrev directoryWith (segments : List OpenSegment) (sidecars : Sidecars) : Directory :=
  directoryOf (segments.map (fun segment => (segment.path, segment.file))) sidecars

namespace Numbered

variable {segments : List OpenSegment} {sidecars : Sidecars} {directory : Directory}

theorem parse_path (h : Numbered segments) {segment : OpenSegment} (hmem : segment ∈ segments) :
    parseSegmentFileName segment.path = some segment.id := by
  have hbounds := (contiguousFrom_bounds h.contiguous).1 segment hmem
  have hlength := h.length_le
  have hcap : maxEventSegments = 1024 := rfl
  rw [h.path_eq segment hmem]
  exact parseSegmentFileName_segmentFileName (by omega) (by omega)

theorem mem_directoryWith {entry : String × Bytes} :
    entry ∈ directoryWith segments sidecars
      ↔ entry = (segmentLockFile, [])
        ∨ (∃ segment ∈ segments, entry = (segment.path, segment.file))
        ∨ (entry.1 = segmentIndexFile ∧ sidecars.index = some entry.2)
        ∨ (entry.1 = segmentIndexTempFile ∧ sidecars.indexTemp = some entry.2)
        ∨ (entry.1 = segmentSnapshotFile ∧ sidecars.snapshot = some entry.2)
        ∨ (entry.1 = segmentSnapshotTempFile ∧ sidecars.snapshotTemp = some entry.2) := by
  have hoptional : ∀ (name : String) (file : Option Bytes),
      entry ∈ optionalFile name file ↔ entry.1 = name ∧ file = some entry.2 := by
    intro name file
    cases file with
    | none => simp [optionalFile]
    | some bytes => simp [optionalFile, Prod.ext_iff, eq_comm]
  simp only [directoryWith, directoryOf, mem_cons, mem_append, mem_map, hoptional]
  simp only [eq_comm]

theorem segmentFiles_optionalFile {name : String} (hname : parseSegmentFileName name = none)
    (file : Option Bytes) : segmentFiles (optionalFile name file) = [] := by
  cases file with
  | none => rfl
  | some bytes => simp [segmentFiles, optionalFile, hname]

theorem segmentFiles_directoryWith (h : Numbered segments) :
    segmentFiles (directoryWith segments sidecars) = segments := by
  have hsegments : segmentFiles (segments.map (fun segment => (segment.path, segment.file))) = segments := by
    unfold segmentFiles
    rw [filterMap_map, filterMap_congr (g := some)]
    . simp
    . intro segment hmem
      simp [h.parse_path hmem]
  have happend : ∀ a b : Directory, segmentFiles (a ++ b) = segmentFiles a ++ segmentFiles b :=
    fun a b => filterMap_append
  have hlock : ∀ d : Directory, segmentFiles ((segmentLockFile, []) :: d) = segmentFiles d := by
    intro d
    have : parseSegmentFileName segmentLockFile = none := by decide
    simp [segmentFiles, this]
  unfold directoryWith directoryOf
  rw [hlock, happend, hsegments, happend, happend, happend]
  rw [segmentFiles_optionalFile (by decide), segmentFiles_optionalFile (by decide),
    segmentFiles_optionalFile (by decide), segmentFiles_optionalFile (by decide)]
  simp

theorem wellNamed (h : Numbered segments) :
    ∀ entry ∈ directoryWith segments sidecars, WellNamed entry := by
  intro entry hentry hparse
  rw [mem_directoryWith] at hentry
  rcases hentry with rfl | ⟨segment, hmem, rfl⟩ | ⟨hname, _⟩ | ⟨hname, _⟩ | ⟨hname, _⟩ | ⟨hname, _⟩
  . decide
  . rw [h.parse_path hmem] at hparse
    cases hparse
  . rw [hname]
    decide
  . rw [hname]
    decide
  . rw [hname]
    decide
  . rw [hname]
    decide

theorem discoverSegments_eq (h : Numbered segments)
    (hperm : directory.Perm (directoryWith segments sidecars)) :
    discoverSegments directory = .ok segments := by
  have hfiles : (segmentFiles directory).Perm segments := by
    have := hperm.filterMap (fun (name, file) =>
      (parseSegmentFileName name).map (fun id => ({ id := id, path := name, file := file } : OpenSegment)))
    change (segmentFiles directory).Perm (segmentFiles _) at this
    rwa [h.segmentFiles_directoryWith] at this
  have hlength := h.length_le
  have hcollect : collectSegments [] directory = .ok (segmentFiles directory) := by
    rw [collectSegments_eq]
    . rfl
    . intro entry hentry
      exact h.wellNamed entry (hperm.mem_iff.mp hentry)
    . rw [hfiles.length_eq]
      simpa using hlength
  unfold discoverSegments
  rw [hcollect, Except.ok_bind]
  rw [insertionSort_eq_of_perm hfiles (contiguousFrom_bounds h.contiguous).2]
  simp [h.contiguous]

theorem nodup_directoryWith (h : Numbered segments) :
    ((directoryWith segments sidecars).map (·.1)).Nodup := by
  have hpaths : ∀ (name : String), parseSegmentFileName name = none →
      name ∉ segments.map (·.path) := by
    intro name hname hmem
    rw [mem_map] at hmem
    obtain ⟨segment, hsegment, heq⟩ := hmem
    rw [← heq, h.parse_path hsegment] at hname
    cases hname
  have hsegments : (segments.map (·.path)).Nodup := by
    rw [nodup_iff_pairwise_ne, pairwise_map]
    apply (contiguousFrom_bounds h.contiguous).2.imp_of_mem
    intro a b ha hb hlt heq
    have hid : some a.id = some b.id := by
      rw [← h.parse_path ha, ← h.parse_path hb, heq]
    simp only [Option.some.injEq] at hid
    omega
  have hoptional : ∀ (name : String) (file : Option Bytes),
      ((optionalFile name file).map (·.1)).Sublist [name] := by
    intro name file
    cases file with
    | none | some _ => simp [optionalFile]
  have hsub : ((directoryWith segments sidecars).map (·.1)).Sublist
      (segmentLockFile :: (segments.map (·.path) ++ ([segmentIndexFile] ++ ([segmentIndexTempFile]
        ++ ([segmentSnapshotFile] ++ [segmentSnapshotTempFile]))))) := by
    simp only [directoryWith, directoryOf, map_cons, map_append, map_map,
      Function.comp_def]
    exact List.Sublist.cons_cons _ ((List.Sublist.refl _).append ((hoptional _ _).append
      ((hoptional _ _).append ((hoptional _ _).append (hoptional _ _)))))
  apply hsub.nodup
  rw [nodup_cons, nodup_append]
  refine ⟨?_, hsegments, by decide, ?_⟩
  . rw [mem_append, not_or]
    exact ⟨hpaths _ (by decide), by decide⟩
  . intro a ha b hb heq
    have hnames : ∀ name ∈ [segmentIndexFile, segmentIndexTempFile, segmentSnapshotFile,
        segmentSnapshotTempFile], parseSegmentFileName name = none := by decide
    rw [heq] at ha
    exact hpaths b (hnames b hb) ha

end Numbered

section Lookup

open SegmentedEventStore

theorem lookupFile_eq_some (h : (directory.map (·.1)).Nodup) {name : String} {file : Bytes} :
    lookupFile directory name = some file ↔ (name, file) ∈ directory := by
  unfold lookupFile
  rw [Option.map_eq_some_iff]
  constructor
  . rintro ⟨⟨name', file'⟩, hfind, rfl⟩
    have hname := find?_some hfind
    simp only [beq_iff_eq] at hname
    rw [← hname]
    exact mem_of_find?_eq_some hfind
  . intro hmem
    induction directory with
    | nil => cases hmem
    | cons entry directory ih =>
      rw [map_cons, nodup_cons] at h
      cases mem_cons.mp hmem with
      | inl heq =>
        refine ⟨entry, ?_, ?_⟩
        . rw [← heq]
          simp
        . rw [← heq]
      | inr hmem =>
        have hne : entry.1 ≠ name := by
          intro heq
          apply h.1
          rw [heq]
          exact mem_map_of_mem (f := (·.1)) hmem
        rw [find?_cons_of_neg (by simpa using hne)]
        exact ih h.2 hmem

theorem Numbered.sidecarsOf_eq {segments : List OpenSegment} (h : Numbered segments)
    (hperm : directory.Perm (directoryWith segments sidecars)) :
    sidecarsOf directory = sidecars := by
  have hnodup : (directory.map (·.1)).Nodup := (hperm.map _).nodup_iff.mpr h.nodup_directoryWith
  have hlookup : ∀ name file, parseSegmentFileName name = none → name ≠ segmentLockFile →
      (lookupFile directory name = some file
        ↔ (name = segmentIndexFile ∧ sidecars.index = some file)
          ∨ (name = segmentIndexTempFile ∧ sidecars.indexTemp = some file)
          ∨ (name = segmentSnapshotFile ∧ sidecars.snapshot = some file)
          ∨ (name = segmentSnapshotTempFile ∧ sidecars.snapshotTemp = some file)) := by
    intro name file hname hlock
    have hpath : ¬∃ segment ∈ segments, name = segment.path ∧ file = segment.file := by
      rintro ⟨segment, hmem, heq, _⟩
      rw [heq, h.parse_path hmem] at hname
      cases hname
    rw [lookupFile_eq_some hnodup, hperm.mem_iff, mem_directoryWith]
    simp only [Prod.mk.injEq, hlock, hpath, false_and, false_or]
  have hindex : lookupFile directory segmentIndexFile = sidecars.index := by
    apply Option.ext
    intro file
    rw [hlookup _ _ (by decide) (by decide)]
    simp [segmentIndexFile, segmentIndexTempFile, segmentSnapshotFile, segmentSnapshotTempFile]
  have hindexTemp : lookupFile directory segmentIndexTempFile = sidecars.indexTemp := by
    apply Option.ext
    intro file
    rw [hlookup _ _ (by decide) (by decide)]
    simp [segmentIndexFile, segmentIndexTempFile, segmentSnapshotFile, segmentSnapshotTempFile]
  have hsnapshot : lookupFile directory segmentSnapshotFile = sidecars.snapshot := by
    apply Option.ext
    intro file
    rw [hlookup _ _ (by decide) (by decide)]
    simp [segmentIndexFile, segmentIndexTempFile, segmentSnapshotFile, segmentSnapshotTempFile]
  have hsnapshotTemp : lookupFile directory segmentSnapshotTempFile = sidecars.snapshotTemp := by
    apply Option.ext
    intro file
    rw [hlookup _ _ (by decide) (by decide)]
    simp [segmentIndexFile, segmentIndexTempFile, segmentSnapshotFile, segmentSnapshotTempFile]
  unfold sidecarsOf
  rw [hindex, hindexTemp, hsnapshot, hsnapshotTemp]

end Lookup

section Layout

variable {ext : Externals}

theorem contiguousFrom_openLayout (id : Nat) (layout : List (List EventRecord)) (active : OpenSegment)
    (hactive : active.id = id + layout.length) :
    contiguousFrom id (openLayout ext id layout ++ [active]) = true := by
  induction layout generalizing id with
  | nil => simpa [openLayout, contiguousFrom] using hactive
  | cons records layout ih =>
    rw [openLayout, cons_append, contiguousFrom, ih (id + 1)]
    . simp [openSegment]
    . rw [hactive, length_cons]
      omega

theorem length_openLayout {id : Nat} : (openLayout ext id layout).length = layout.length := by
  induction layout generalizing id with
  | nil => rfl
  | cons records layout ih => rw [openLayout, length_cons, ih, length_cons]

theorem path_of_mem_openLayout {id : Nat} {segment : OpenSegment}
    (h : segment ∈ openLayout ext id layout) : segment.path = segmentFileName segment.id := by
  induction layout generalizing id with
  | nil => cases h
  | cons records layout ih =>
    rw [openLayout] at h
    cases mem_cons.mp h with
    | inl heq =>
      rw [heq]
      rfl
    | inr hmem => exact ih hmem

theorem Layout.numbered_open (l : Layout) (h : l.segments.length ≤ maxEventSegments) (tail : Bytes) :
    Numbered (l.open ext tail) where
  contiguous := contiguousFrom_openLayout 1 l.completed _ (Nat.add_comm _ _)
  path_eq := forall_mem_concat (fun _ => path_of_mem_openLayout) rfl
  length_le := by
    simpa [Layout.open, Layout.segments, length_openLayout] using h

end Layout

end EventStore
