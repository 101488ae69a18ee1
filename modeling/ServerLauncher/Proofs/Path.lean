import ServerLauncher.Machine.FileActions
import ServerLauncher.Proofs.FileTree

/-!
# Normalized paths

A normalized absolute path is one slash, or two, followed by names.  Where it leads can be read off
its text, and so can the paths above it.

## Main definitions

* `Path.IsName`: the components that name an entry of a directory.
* `Path.Spells`: a path is written as slashes and names.

## Main statements

* `Path.normalize_spells`: the paths that `Path.normalize` makes from absolute ones.
* `Path.Spells.normalize_eq`: a path of this kind is normalized.
* `Path.Spells.walk_eq_ok`: a path leads to its names, through directories.
* `Path.Spells.directory`, `Path.Spells.lastComponent`: the path above a path.
-/

namespace ServerLauncher

/-! ## Pieces -/

namespace Text

variable {separator : Char} {piece before after : List Char} {pieces : List (List Char)}

theorem cutFirst_append (h : separator ∉ before) (after : List Char) :
    cutFirst separator (before ++ separator :: after) = some (before, after) := by
  induction before with
  | nil => simp [cutFirst]
  | cons c before ih =>
    rw [List.mem_cons, not_or] at h
    simp [cutFirst, Ne.symm h.1, ih h.2]

theorem cutLast_append (before : List Char) (h : separator ∉ after) :
    cutLast separator (before ++ separator :: after) = some (before, after) := by
  have hreverse : (before ++ separator :: after).reverse =
      after.reverse ++ separator :: before.reverse := by simp
  rw [cutLast, hreverse, cutFirst_append (by simpa using h)]
  simp

theorem splitAt_of_not_mem (h : separator ∉ piece) : splitAt separator piece = [piece] := by
  induction piece with
  | nil => rfl
  | cons c piece ih =>
    rw [List.mem_cons, not_or] at h
    simp [splitAt, Ne.symm h.1, ih h.2]

theorem splitAt_append (h : separator ∉ piece) (rest : List Char) :
    splitAt separator (piece ++ separator :: rest) = piece :: splitAt separator rest := by
  induction piece with
  | nil => simp [splitAt]
  | cons c piece ih =>
    rw [List.mem_cons, not_or] at h
    simp [splitAt, Ne.symm h.1, ih h.2]

/-- Splitting undoes joining. -/
theorem splitAt_joinWith (h : ∀ c ∈ pieces, separator ∉ c) (hne : pieces ≠ []) :
    splitAt separator (joinWith [separator] pieces) = pieces := by
  induction pieces with
  | nil => exact absurd rfl hne
  | cons piece rest ih =>
    rw [List.forall_mem_cons] at h
    cases rest with
    | nil => exact splitAt_of_not_mem h.1
    | cons second rest =>
      have hjoin : joinWith [separator] (piece :: second :: rest) =
          piece ++ separator :: joinWith [separator] (second :: rest) := by simp [joinWith]
      rw [hjoin, splitAt_append h.1, ih h.2 (List.cons_ne_nil _ _)]

theorem not_mem_of_mem_splitAt {s : List Char} (h : piece ∈ splitAt separator s) :
    separator ∉ piece := by
  induction s generalizing piece with
  | nil => simp_all [splitAt]
  | cons c rest ih =>
    by_cases hc : c = separator
    · rw [splitAt, if_pos hc, List.mem_cons] at h
      rcases h with rfl | h
      · exact List.not_mem_nil
      · exact ih h
    · rw [splitAt, if_neg hc] at h
      cases hrest : splitAt separator rest with
      | nil => exact absurd hrest (splitAt_ne_nil separator rest)
      | cons first others =>
        rw [hrest] at h ih
        dsimp only at h
        rw [List.mem_cons] at h
        rcases h with rfl | h
        · rw [List.mem_cons, not_or]
          exact ⟨Ne.symm hc, ih (List.mem_cons_self)⟩
        · exact ih (List.mem_cons_of_mem _ h)

theorem head?_joinWith_cons (glue : List Char) (hpiece : piece ≠ []) (rest : List (List Char)) :
    (joinWith glue (piece :: rest)).head? = piece.head? := by
  cases rest with
  | nil => rfl
  | cons second rest => simp [joinWith, List.head?_append_of_ne_nil _ hpiece]

theorem joinWith_concat (glue last : List Char) (hne : pieces ≠ []) :
    joinWith glue (pieces ++ [last]) = joinWith glue pieces ++ glue ++ last := by
  induction pieces with
  | nil => exact absurd rfl hne
  | cons piece rest ih =>
    cases rest with
    | nil => simp [joinWith]
    | cons second rest =>
      have htail := ih (List.cons_ne_nil _ _)
      simp only [List.cons_append] at htail
      simp [joinWith, htail]

theorem getLast?_joinWith_concat (glue : List Char) (pieces : List (List Char))
    {last : List Char} (h : last ≠ []) :
    (joinWith glue (pieces ++ [last])).getLast? = last.getLast? := by
  by_cases hnil : pieces = []
  · simp [hnil, joinWith]
  · rw [joinWith_concat glue last hnil, List.getLast?_append_of_ne_nil _ h]

theorem dropTrailing_concat (c : Char) (s : List Char) :
    dropTrailing c (s ++ [c]) = dropTrailing c s := by
  simp [dropTrailing]

theorem dropTrailing_of_getLast {c : Char} {s : List Char} (h : s.getLast? ≠ some c) :
    dropTrailing c s = s := by
  rcases List.eq_nil_or_concat s with rfl | ⟨before, d, rfl⟩
  · rfl
  · have hd : d ≠ c := by simpa using h
    simp [dropTrailing, hd]

end Text

namespace Path

/-! ## Normalization -/

/-- A component that names an entry of a directory. -/
structure IsName (c : List Char) : Prop where
  not_nil : c ≠ []
  not_dot : c ≠ ['.']
  not_dots : c ≠ ['.', '.']
  not_slash : '/' ∉ c

/-- A path is written as one slash or two, and names with a slash between each two. -/
structure Spells (slashes : List Char) (components : List (List Char)) (path : String) : Prop where
  root : slashes = ['/'] ∨ slashes = ['/', '/']
  names : ∀ c ∈ components, IsName c
  text : path.toList = slashes ++ Text.joinWith ['/'] components

/-- What is left after cancelling names entries. -/
theorem isName_of_mem_cancel {kept components : List (List Char)} (hkept : ∀ c ∈ kept, IsName c)
    (h : ∀ c ∈ components, '/' ∉ c) : ∀ c ∈ cancel true kept components, IsName c := by
  induction components generalizing kept with
  | nil => simpa [cancel] using hkept
  | cons c rest ih =>
    rw [List.forall_mem_cons] at h
    unfold cancel
    by_cases hskipped : c.isEmpty || c = ['.']
    · rw [if_pos hskipped]
      exact ih hkept h.2
    · rw [if_neg hskipped]
      simp only [Bool.or_eq_true, List.isEmpty_iff, decide_eq_true_eq, not_or] at hskipped
      by_cases hdots : c = ['.', '.']
      · rw [if_neg (not_not.mpr hdots)]
        cases kept with
        | nil => exact ih hkept h.2
        | cons last earlier =>
          rw [List.forall_mem_cons] at hkept
          dsimp only
          rw [if_neg hkept.1.not_dots]
          exact ih hkept.2 h.2
      · rw [if_pos hdots]
        refine ih ?_ h.2
        rw [List.forall_mem_cons]
        exact ⟨⟨hskipped.1, hskipped.2, hdots, h.1⟩, hkept⟩

/-- Empty components do not count. -/
theorem cancel_filter (rooted : Bool) (kept components : List (List Char)) :
    cancel rooted kept (components.filter (!·.isEmpty)) = cancel rooted kept components := by
  induction components generalizing kept with
  | nil => rfl
  | cons c rest ih =>
    cases c with
    | nil => simp [cancel, ih]
    | cons d c => simp [cancel, ih]

/-- Names are kept. -/
theorem cancel_of_isName {kept components : List (List Char)} (h : ∀ c ∈ components, IsName c) :
    cancel true kept components = kept.reverse ++ components := by
  induction components generalizing kept with
  | nil => simp [cancel]
  | cons c rest ih =>
    rw [List.forall_mem_cons] at h
    simp [cancel, h.1.not_nil, h.1.not_dot, h.1.not_dots, ih h.2]

theorem rootSlashes_of_isAbsolute {path : String} (h : isAbsolute path) :
    rootSlashes path.toList = ['/'] ∨ rootSlashes path.toList = ['/', '/'] := by
  unfold isAbsolute at h
  rw [decide_eq_true_eq] at h
  unfold rootSlashes
  split
  · exact .inl rfl
  · exact .inr rfl
  · exact .inl rfl
  · next hother =>
    cases hcs : path.toList with
    | nil =>
      rw [hcs] at h
      cases h
    | cons c rest =>
      rw [hcs, List.head?_cons, Option.some.injEq] at h
      exact absurd (h ▸ hcs) (hother rest)

/-- Normalization writes an absolute path as its slashes and what is left after cancelling. -/
theorem spells_normalize {path : String} (h : isAbsolute path) :
    Spells (rootSlashes path.toList) (cancel true [] (Text.splitAt '/' path.toList))
      (normalize path) := by
  have hroot := rootSlashes_of_isAbsolute h
  have hne : rootSlashes path.toList ≠ [] := by
    rcases hroot with hroot | hroot
    · simp [hroot]
    · simp [hroot]
  have hrooted : !(rootSlashes path.toList).isEmpty := by simpa using hne
  refine ⟨hroot, isName_of_mem_cancel (by simp) fun c hc => Text.not_mem_of_mem_splitAt hc, ?_⟩
  unfold normalize
  simp only [hrooted]
  rw [if_neg (by simp [hne])]
  simp

/-- The paths that normalization makes from absolute ones. -/
theorem normalize_spells {path : String} (h : isAbsolute path) :
    ∃ slashes components, Spells slashes components (normalize path) :=
  ⟨_, _, spells_normalize h⟩

/-- A path seen from an absolute one is absolute. -/
theorem isAbsolute_join {directory : String} (h : isAbsolute directory) (path : String) :
    isAbsolute (join directory path) := by
  unfold isAbsolute at h
  rw [decide_eq_true_eq, List.head?_eq_some_iff] at h
  obtain ⟨rest, hdirectory⟩ := h
  unfold join
  split_ifs with hpath
  · exact hpath
  · simp [isAbsolute, hdirectory]
  · simp [isAbsolute, hdirectory]

/-- What a path is seen from a directory. -/
theorem absolute_spells {current : String} (h : isAbsolute current) (path : String) :
    ∃ slashes components, Spells slashes components (absolute current path) :=
  normalize_spells (isAbsolute_join h path)

namespace Spells

variable {slashes : List Char} {components : List (List Char)} {path : String}

theorem isAbsolute (h : Spells slashes components path) : isAbsolute path := by
  unfold Path.isAbsolute
  rcases h.root with hroot | hroot
  · simp [h.text, hroot]
  · simp [h.text, hroot]

theorem isEmpty_eq_false (h : Spells slashes components path) : path.isEmpty = false := by
  rw [String.isEmpty_eq_false_iff]
  rintro rfl
  rcases h.root with hroot | hroot
  · simpa [hroot] using h.text
  · simpa [hroot] using h.text

theorem filter_splitAt (h : Spells slashes components path) :
    (Text.splitAt '/' path.toList).filter (!·.isEmpty) = components := by
  have hpieces : (Text.splitAt '/' (Text.joinWith ['/'] components)).filter (!·.isEmpty) =
      components := by
    by_cases hnil : components = []
    · simp [hnil, Text.joinWith, Text.splitAt]
    · rw [Text.splitAt_joinWith (fun c hc => (h.names c hc).not_slash) hnil,
        List.filter_eq_self]
      intro c hc
      simpa using (h.names c hc).not_nil
  rcases h.root with hroot | hroot
  · simpa [h.text, hroot, Text.splitAt] using hpieces
  · simpa [h.text, hroot, Text.splitAt] using hpieces

/-- The text behind the slashes of the root begins with none. -/
theorem head?_body_ne (h : Spells slashes components path) :
    (Text.joinWith ['/'] components).head? ≠ some '/' := by
  cases components with
  | nil => simp [Text.joinWith]
  | cons c rest =>
    have hc := h.names c List.mem_cons_self
    rw [Text.head?_joinWith_cons _ hc.not_nil]
    exact fun hslash => hc.not_slash (List.mem_of_head? hslash)

theorem rootSlashes_eq (h : Spells slashes components path) :
    rootSlashes path.toList = slashes := by
  have hhead := h.head?_body_ne
  rw [h.text]
  generalize Text.joinWith ['/'] components = body at hhead
  rcases h.root with rfl | rfl
  · rcases body with _ | ⟨c, rest⟩
    · rfl
    · have hc : c ≠ '/' := by simpa using hhead
      simp [rootSlashes, hc]
  · rcases body with _ | ⟨c, rest⟩
    · rfl
    · have hc : c ≠ '/' := by simpa using hhead
      simp [rootSlashes, hc]

/-- Normalization changes nothing about a normalized path. -/
theorem normalize_eq (h : Spells slashes components path) : normalize path = path := by
  have hcancel : cancel true [] (Text.splitAt '/' path.toList) = components := by
    rw [← cancel_filter, h.filter_splitAt, cancel_of_isName h.names]
    rfl
  have hrooted : (!slashes.isEmpty) = true := by
    rcases h.root with rfl | rfl
    · rfl
    · rfl
  unfold normalize
  simp only [h.rootSlashes_eq, hrooted, hcancel, ← h.text, String.ofList_toList]
  exact if_neg (by simpa using h.isEmpty_eq_false)

/-! ## Where a path leads -/

/-- The location of a path consists of its names. -/
theorem locate_eq (h : Spells slashes components path) :
    FileTree.locate path = components.map String.ofList := by
  rw [FileTree.locate, FileTree.names, List.filter_map, ← h.filter_splitAt]
  congr 2
  funext c
  rw [Function.comp_apply, Bool.eq_iff_iff]
  simp

theorem isStep_of_mem_locate (h : Spells slashes components path) :
    ∀ name ∈ FileTree.locate path, FileTree.IsStep name := by
  intro name hname
  rw [h.locate_eq, List.mem_map] at hname
  obtain ⟨c, hc, rfl⟩ := hname
  have hstep := h.names c hc
  have hdot : (".": String) = String.ofList ['.'] := rfl
  have hdots : ("..": String) = String.ofList ['.', '.'] := rfl
  refine ⟨by simpa using hstep.not_nil, ?_, ?_⟩
  · rw [hdot, ne_eq, String.ofList_inj]
    exact hstep.not_dot
  · rw [hdots, ne_eq, String.ofList_inj]
    exact hstep.not_dots

/-- A path is followed name by name from the root, whatever the current directory is. -/
theorem walk_eq (h : Spells slashes components path) (t : FileTree) (current : Location) :
    t.walk current path =
      if holdsNull path then .error errnoMissing else t.walkFrom [] (FileTree.locate path) := by
  have hnames : t.walkFrom [] (FileTree.names path) = t.walkFrom [] (FileTree.locate path) := by
    rw [h.locate_eq, FileTree.names, h.text]
    by_cases hnil : components = []
    · rcases h.root with hroot | hroot
      · simp [hroot, hnil, Text.joinWith, Text.splitAt, FileTree.walkFrom]
      · simp [hroot, hnil, Text.joinWith, Text.splitAt, FileTree.walkFrom]
    · have hpieces := Text.splitAt_joinWith (fun c hc => (h.names c hc).not_slash) hnil
      rcases h.root with hroot | hroot
      · simp [hroot, Text.splitAt, FileTree.walkFrom, hpieces]
      · simp [hroot, Text.splitAt, FileTree.walkFrom, hpieces]
  simp only [FileTree.walk, h.isEmpty_eq_false, Bool.false_or, h.isAbsolute, if_true, hnames]

/-- A path leads to its location, through directories. -/
theorem walk_eq_ok (h : Spells slashes components path) {t : FileTree} {current l : Location} :
    t.walk current path = .ok l ↔ holdsNull path = false ∧ l = FileTree.locate path ∧
      ∀ n < l.length, t.get? (l.take n) = some .directory := by
  rw [h.walk_eq]
  by_cases hnull : holdsNull path
  · simp [hnull]
  · rw [if_neg hnull, FileTree.walkFrom_eq_ok h.isStep_of_mem_locate]
    rw [Bool.not_eq_true] at hnull
    constructor
    · rintro ⟨rfl, hdirs⟩
      exact ⟨hnull, rfl, hdirs⟩
    · rintro ⟨-, rfl, hdirs⟩
      exact ⟨rfl, hdirs⟩

/-! ## The paths above a path -/

theorem body_ne_nil (h : Spells slashes components path) (hne : components ≠ []) :
    Text.joinWith ['/'] components ≠ [] := by
  intro hempty
  obtain ⟨init, last, rfl⟩ := List.eq_nil_or_concat components |>.resolve_left hne
  have hlast := (h.names last (by simp)).not_nil
  have hends := Text.getLast?_joinWith_concat ['/'] init hlast
  rw [← List.concat_eq_append, hempty] at hends
  exact hlast (List.getLast?_eq_none_iff.mp hends.symm)

theorem getLast?_ne (h : Spells slashes components path) (hne : components ≠ []) :
    path.toList.getLast? ≠ some '/' := by
  rw [h.text, List.getLast?_append_of_ne_nil _ (h.body_ne_nil hne)]
  obtain ⟨init, last, rfl⟩ := List.eq_nil_or_concat components |>.resolve_left hne
  have hlast := h.names last (by simp)
  rw [List.concat_eq_append, Text.getLast?_joinWith_concat ['/'] init hlast.not_nil]
  exact fun hslash => hlast.not_slash (List.mem_of_getLast? hslash)

/-- A path is split into the path above it and its last name. -/
theorem split_concat {last : List Char} (h : Spells slashes (components ++ [last]) path) :
    ∃ head, split path = (head, String.ofList last) ∧ Spells slashes components head := by
  have hlast := (h.names last (by simp)).not_slash
  have hhead : Spells slashes components
      (String.ofList (slashes ++ Text.joinWith ['/'] components)) :=
    ⟨h.root, fun c hc => h.names c (by simp [hc]), String.toList_ofList⟩
  refine ⟨_, ?_, hhead⟩
  by_cases hnil : components = []
  · subst hnil
    rcases h.root with rfl | rfl
    · have hcut := Text.cutLast_append [] hlast
      rw [split, h.text]
      simp only [List.nil_append] at hcut
      simp [Text.joinWith, hcut, Text.dropTrailing]
    · have hcut := Text.cutLast_append ['/'] hlast
      rw [split, h.text]
      simp only [List.cons_append, List.nil_append] at hcut
      simp [Text.joinWith, hcut, Text.dropTrailing]
  · have hcut := Text.cutLast_append (slashes ++ Text.joinWith ['/'] components) hlast
    have htext : path.toList = slashes ++ Text.joinWith ['/'] components ++ '/' :: last := by
      rw [h.text, Text.joinWith_concat _ _ hnil]
      simp
    have hends := hhead.getLast?_ne hnil
    rw [String.toList_ofList] at hends
    have hstripped := Text.dropTrailing_of_getLast hends
    rw [split, htext, hcut]
    simp only [Text.dropTrailing_concat, hstripped]
    rw [if_neg (by simp [hhead.body_ne_nil hnil])]

/-- The root is not split any further. -/
theorem split_nil (h : Spells slashes [] path) : split path = (path, "") := by
  have hpath : path = String.ofList slashes := by
    rw [← String.ofList_toList (s := path), h.text]
    simp [Text.joinWith]
  subst hpath
  rcases h.root with rfl | rfl
  · rfl
  · rfl

/-- The directory of a path is the path above it. -/
theorem directory {last : List Char} (h : Spells slashes (components ++ [last]) path) :
    Spells slashes components (directory path) := by
  obtain ⟨head, hsplit, hhead⟩ := h.split_concat
  rw [Path.directory, hsplit]
  exact hhead

/-- A path without its last name is the path above it; the root has no last name. -/
theorem lastComponent (h : Spells slashes components path)
    (hne : (MachineAction.lastComponent path).2.isEmpty = false) :
    ∃ init last, components = init ++ [last] ∧
      Spells slashes init (MachineAction.lastComponent path).1 := by
  rcases List.eq_nil_or_concat components with rfl | ⟨init, last, rfl⟩
  · rw [MachineAction.lastComponent, h.split_nil] at hne
    simp [h.split_nil] at hne
  · rw [List.concat_eq_append] at h ⊢
    obtain ⟨head, hsplit, hhead⟩ := h.split_concat
    have hlast := (h.names last (by simp)).not_nil
    refine ⟨init, last, rfl, ?_⟩
    rw [MachineAction.lastComponent, hsplit]
    simpa [hlast] using hhead

/-- A name appended to a path. -/
theorem join (h : Spells slashes components path) {name : String} (hname : IsName name.toList) :
    Spells slashes (components ++ [name.toList]) (join path name) := by
  have hrelative : Path.isAbsolute name = false := by
    unfold Path.isAbsolute
    rw [decide_eq_false_iff_not]
    exact fun hhead => hname.not_slash (List.mem_of_head? hhead)
  have hnames : ∀ c ∈ components ++ [name.toList], IsName c := by
    intro c hc
    rw [List.mem_append, List.mem_singleton] at hc
    rcases hc with hc | rfl
    · exact h.names c hc
    · exact hname
  refine ⟨h.root, hnames, ?_⟩
  unfold Path.join
  rw [hrelative, if_neg Bool.false_ne_true]
  by_cases hnil : components = []
  · have hends : path.toList.getLast? = some '/' := by
      rw [h.text, hnil]
      rcases h.root with hroot | hroot
      · simp [hroot, Text.joinWith]
      · simp [hroot, Text.joinWith]
    rw [if_pos (by simp [hends]), String.toList_append, h.text, hnil]
    simp [Text.joinWith]
  · rw [if_neg (by simp [h.isEmpty_eq_false, h.getLast?_ne hnil]), Text.joinWith_concat _ _ hnil]
    simp [h.text]

end Spells

end Path

end ServerLauncher
