import ServerLauncher.Proofs.Path

/-!
# Paths that are walked

Other texts are made of a path: it is normalized, seen from the current directory, or brought into
the form of messages.  In a tree without links they lead where the path itself leads, if it leads
anywhere: whoever walks a path has been in every directory that a shorter text still names.

## Main definitions

* `FileTree.Encloses`: all directories above a location are there.

## Main statements

* `FileTree.walkFrom_eq_cancel`: walking names agrees with cancelling them in the text.
* `Path.walk_absolute`: a path leads where its absolute form leads.
* `Path.walk_display`: and where the form of messages leads.
* `Path.absolute_join`: a name may be appended before or after a path is made absolute.
-/

namespace ServerLauncher

/-! ## Pieces -/

namespace Text

variable {separator c : Char} {pieces : List (List Char)}

theorem splitAt_append_cons (separator : Char) (before after : List Char) :
    splitAt separator (before ++ separator :: after) =
      splitAt separator before ++ splitAt separator after := by
  induction before with
  | nil => simp [splitAt]
  | cons c before ih =>
    by_cases hc : c = separator
    · simp [splitAt, hc, ih]
    · simp only [List.cons_append, splitAt, if_neg hc, ih]
      rcases hsplit : splitAt separator before with _ | ⟨piece, pieces⟩
      · exact absurd hsplit (splitAt_ne_nil separator before)
      · rfl

theorem mem_joinWith {glue : List Char} (h : c ∈ joinWith glue pieces) :
    c ∈ glue ∨ ∃ piece ∈ pieces, c ∈ piece := by
  induction pieces with
  | nil => cases h
  | cons piece rest ih =>
    cases rest with
    | nil => exact .inr ⟨piece, List.mem_cons_self, h⟩
    | cons second rest =>
      simp only [joinWith, List.mem_append] at h
      rcases h with (h | h) | h
      · exact .inr ⟨piece, List.mem_cons_self, h⟩
      · exact .inl h
      · rcases ih h with hglue | ⟨piece', hmem, hc⟩
        · exact .inl hglue
        · exact .inr ⟨piece', List.mem_cons_of_mem _ hmem, hc⟩

theorem mem_of_mem_splitAt {s piece : List Char} (h : piece ∈ splitAt separator s)
    (hc : c ∈ piece) : c ∈ s := by
  induction s generalizing piece with
  | nil =>
    rw [splitAt, List.mem_singleton] at h
    exact h ▸ hc
  | cons d rest ih =>
    by_cases hd : d = separator
    · rw [splitAt, if_pos hd, List.mem_cons] at h
      rcases h with rfl | h
      · cases hc
      · exact List.mem_cons_of_mem _ (ih h hc)
    · rw [splitAt, if_neg hd] at h
      rcases hrest : splitAt separator rest with _ | ⟨first, others⟩
      · exact absurd hrest (splitAt_ne_nil separator rest)
      · rw [hrest] at h ih
        rcases List.mem_cons.mp h with rfl | h
        · rcases List.mem_cons.mp hc with rfl | hc
          · exact List.mem_cons_self
          · exact List.mem_cons_of_mem _ (ih List.mem_cons_self hc)
        · exact List.mem_cons_of_mem _ (ih (List.mem_cons_of_mem _ h) hc)

end Text

/-! ## Names -/

namespace FileTree

variable {t : FileTree} {l k : Location}

/-- Names are followed in turn. -/
theorem walkFrom_append (t : FileTree) (l : Location) (names names' : List String) :
    t.walkFrom l (names ++ names') = (t.walkFrom l names).bind fun k => t.walkFrom k names' := by
  induction names generalizing l with
  | nil => rfl
  | cons name rest ih =>
    simp only [List.cons_append, walkFrom]
    rcases t.get? l with _ | _ | ⟨content, mode⟩
    · rfl
    · dsimp only
      split_ifs
      · exact ih l
      · exact ih l.dropLast
      · exact ih (l ++ [name])
    · rfl

/-- From a directory names lead on. -/
theorem walkFrom_cons (hl : t.get? l = some .directory) (name : String) (rest : List String) :
    t.walkFrom l (name :: rest) =
      if name = "" ∨ name = "." then t.walkFrom l rest
      else if name = ".." then t.walkFrom l.dropLast rest
      else t.walkFrom (l ++ [name]) rest := by
  rw [walkFrom, hl]

/-- Names lead on from directories only. -/
theorem get?_of_walkFrom_cons {name : String} {rest : List String}
    (h : t.walkFrom l (name :: rest) = .ok k) : t.get? l = some .directory := by
  unfold walkFrom at h
  rcases hl : t.get? l with _ | _ | ⟨content, mode⟩
  · rw [hl] at h
    cases h
  · rfl
  · rw [hl] at h
    cases h

/-- An empty name changes nothing where names follow. -/
theorem walkFrom_empty (t : FileTree) (l : Location) {names : List String} (hne : names ≠ []) :
    (t.walkFrom l [""]).bind (fun k => t.walkFrom k names) = t.walkFrom l names := by
  obtain ⟨name, rest, rfl⟩ := List.exists_cons_of_ne_nil hne
  rcases hl : t.get? l with _ | _ | ⟨content, mode⟩
  · simp [walkFrom, hl, Except.bind]
  · rw [walkFrom_cons hl "" [], if_pos (.inl rfl)]
    rfl
  · simp [walkFrom, hl, Except.bind]

theorem names_ne_nil (path : String) : names path ≠ [] := by
  rw [names, ne_eq, List.map_eq_nil_iff]
  exact Text.splitAt_ne_nil _ _

/-- Names that lead nowhere may be left out. -/
theorem walkFrom_filter {names : List String} (h : t.walkFrom l names = .ok k) :
    t.walkFrom l (names.filter fun name => !(name = "" ∨ name = ".")) = .ok k := by
  induction names generalizing l with
  | nil => exact h
  | cons name rest ih =>
    have hl := get?_of_walkFrom_cons h
    rw [walkFrom_cons hl] at h
    split_ifs at h with hskipped hdots
    · rw [List.filter_cons_of_neg (by simpa [or_iff_not_imp_left] using hskipped)]
      exact ih h
    · rw [List.filter_cons_of_pos (by simpa using hskipped), walkFrom_cons hl, if_neg hskipped,
        if_pos hdots]
      exact ih h
    · rw [List.filter_cons_of_pos (by simpa using hskipped), walkFrom_cons hl, if_neg hskipped,
        if_neg hdots]
      exact ih h

/-- Names that lead nowhere change nothing about a directory. -/
theorem walkFrom_skip (hl : t.get? l = some .directory) {skipped : List String}
    (h : ∀ name ∈ skipped, name = "" ∨ name = ".") (names : List String) :
    t.walkFrom l (skipped ++ names) = t.walkFrom l names := by
  induction skipped with
  | nil => rfl
  | cons name rest ih =>
    rw [List.forall_mem_cons] at h
    rw [List.cons_append, walkFrom_cons hl, if_pos h.1, ih h.2]

/-- All directories above a location are there. -/
def Encloses (t : FileTree) (l : Location) : Prop :=
  ∀ n < l.length, t.get? (l.take n) = some .directory

theorem encloses_nil (t : FileTree) : t.Encloses [] := fun _ hn => nomatch hn

theorem Encloses.dropLast (h : t.Encloses l) : t.Encloses l.dropLast := by
  intro n hn
  rw [List.length_dropLast] at hn
  rw [List.dropLast_eq_take, List.take_take, Nat.min_eq_left (by omega)]
  exact h n (by omega)

theorem Encloses.concat (h : t.Encloses l) (hl : t.get? l = some .directory) (name : String) :
    t.Encloses (l ++ [name]) := by
  intro n hn
  rw [List.length_append, List.length_singleton] at hn
  rw [List.take_append_of_le_length (by omega)]
  rcases Nat.lt_or_eq_of_le (Nat.le_of_lt_succ hn) with hlt | rfl
  · exact h n hlt
  · rwa [List.take_length]

theorem ofList_eq_dots {c : List Char} : String.ofList c = ".." ↔ c = ['.', '.'] := by
  have hdots : (".." : String) = String.ofList ['.', '.'] := rfl
  rw [hdots]
  exact String.ofList_inj

/-- The texts of the components that lead nowhere. -/
theorem ofList_eq_skipped {c : List Char} :
    (String.ofList c = "" ∨ String.ofList c = ".") ↔ (c.isEmpty || c = ['.']) := by
  have hdot : ("." : String) = String.ofList ['.'] := rfl
  rw [Bool.or_eq_true, List.isEmpty_iff, decide_eq_true_eq, String.ofList_eq_empty_iff, hdot]
  exact or_congr_right String.ofList_inj

/-- Walking names agrees with cancelling them in the text. -/
theorem walkFrom_eq_cancel {kept components : List (List Char)} (hkept : ∀ c ∈ kept, Path.IsName c)
    (hcomponents : ∀ c ∈ components, '/' ∉ c)
    (hencloses : t.Encloses (kept.reverse.map String.ofList))
    (h : t.walkFrom (kept.reverse.map String.ofList) (components.map String.ofList) = .ok l) :
    l = (Path.cancel true kept components).map String.ofList ∧ t.Encloses l := by
  -- The names that are kept are where the walk is, so that both lose the last of them at "..".
  induction components generalizing kept with
  | nil =>
    cases h
    exact ⟨rfl, hencloses⟩
  | cons c rest ih =>
    rw [List.forall_mem_cons] at hcomponents
    obtain ⟨hslash, hrest⟩ := hcomponents
    have hdirectory := get?_of_walkFrom_cons h
    rw [List.map_cons, walkFrom_cons hdirectory] at h
    unfold Path.cancel
    by_cases hskipped : c.isEmpty || c = ['.']
    · rw [if_pos (ofList_eq_skipped.mpr hskipped)] at h
      rw [if_pos hskipped]
      exact ih hkept hrest hencloses h
    rw [if_neg (fun h => hskipped (ofList_eq_skipped.mp h))] at h
    rw [if_neg hskipped]
    by_cases hup : c = ['.', '.']
    · rw [if_pos (ofList_eq_dots.mpr hup)] at h
      rw [if_neg (not_not.mpr hup)]
      cases kept with
      | nil =>
        -- The root is above itself, in the tree as in the text.
        exact ih hkept hrest hencloses h
      | cons last earlier =>
        rw [List.forall_mem_cons] at hkept
        dsimp only
        rw [if_neg hkept.1.not_dots]
        have hshorter : ((last :: earlier).reverse.map String.ofList).dropLast =
            earlier.reverse.map String.ofList := by simp
        rw [hshorter] at h
        exact ih hkept.2 hrest (hshorter ▸ hencloses.dropLast) h
    · rw [if_neg (fun h => hup (ofList_eq_dots.mp h))] at h
      rw [if_pos hup]
      simp only [Bool.or_eq_true, List.isEmpty_iff, decide_eq_true_eq, not_or] at hskipped
      have hlonger : kept.reverse.map String.ofList ++ [String.ofList c] =
          (c :: kept).reverse.map String.ofList := by simp
      rw [hlonger] at h
      refine ih ?_ hrest (hlonger ▸ hencloses.concat hdirectory _) h
      rw [List.forall_mem_cons]
      exact ⟨⟨hskipped.1, hskipped.2, hup, hslash⟩, hkept⟩

end FileTree

/-! ## Paths -/

namespace Path

variable {t : FileTree} {current l : Location} {path dir name : String}

theorem walk_eq_ok_iff : t.walk current path = .ok l ↔ path ≠ "" ∧ holdsNull path = false ∧
    t.walkFrom (if isAbsolute path then [] else current) (FileTree.names path) = .ok l := by
  unfold FileTree.walk
  by_cases hempty : path = ""
  · simp [hempty]
  · by_cases hnull : holdsNull path
    · simp [hnull]
    · simp [hempty, hnull]

/-! ### Normalized paths -/

theorem mem_of_mem_cancel {kept components : List (List Char)} {c : List Char}
    (h : c ∈ cancel true kept components) : c ∈ kept ∨ c ∈ components := by
  induction components generalizing kept with
  | nil => exact .inl (by simpa [cancel] using h)
  | cons d rest ih =>
    have hkept (h : c ∈ d :: kept ∨ c ∈ rest) : c ∈ kept ∨ c ∈ d :: rest := by
      rw [List.mem_cons, or_assoc, or_left_comm] at h
      rwa [List.mem_cons]
    unfold cancel at h
    split_ifs at h
    · exact (ih h).imp_right (List.mem_cons_of_mem _)
    · exact hkept (ih h)
    · cases kept with
      | nil => exact (ih h).imp_right (List.mem_cons_of_mem _)
      | cons last earlier =>
        dsimp only at h
        split_ifs at h
        · exact hkept (ih h)
        · exact (ih h).imp (List.mem_cons_of_mem _) (List.mem_cons_of_mem _)
    · contradiction

/-- A path holds no null character if it is spelled with slashes and pieces of one that holds
none. -/
theorem holdsNull_of_pieces {path' : String} {slashes : List Char} {pieces : List (List Char)}
    (htext : path'.toList = slashes ++ Text.joinWith ['/'] pieces)
    (hslashes : ∀ c ∈ slashes, c = '/')
    (hpieces : ∀ piece ∈ pieces, piece ∈ Text.splitAt '/' path.toList)
    (hnull : holdsNull path = false) : holdsNull path' = false := by
  unfold holdsNull at hnull ⊢
  rw [← Bool.not_eq_true, List.contains_iff_mem] at hnull ⊢
  rw [htext, List.mem_append]
  rintro (hslash | hbody)
  · cases hslashes _ hslash
  · rcases Text.mem_joinWith hbody with hglue | ⟨piece, hpiece, hmem⟩
    · simp at hglue
    · exact hnull (Text.mem_of_mem_splitAt (hpieces piece hpiece) hmem)

theorem holdsNull_normalize (h : isAbsolute path) (hnull : holdsNull path = false) :
    holdsNull (normalize path) = false := by
  have hspells := spells_normalize h
  refine holdsNull_of_pieces hspells.text ?_ (fun piece hpiece => ?_) hnull
  · rcases hspells.root with heq | heq
    · simp [heq]
    · simp [heq]
  · exact (mem_of_mem_cancel hpiece).resolve_left (List.not_mem_nil)

/-- A normalized path leads where the path itself leads. -/
theorem walk_normalize (h : isAbsolute path) (hwalk : t.walk current path = .ok l)
    (current' : Location) : t.walk current' (normalize path) = .ok l := by
  obtain ⟨-, hnull, hfrom⟩ := walk_eq_ok_iff.mp hwalk
  rw [if_pos h] at hfrom
  obtain ⟨hl, hencloses⟩ := FileTree.walkFrom_eq_cancel (List.forall_mem_nil _)
    (fun c hc => Text.not_mem_of_mem_splitAt hc) (FileTree.encloses_nil t) hfrom
  have hspells := spells_normalize h
  exact hspells.walk_eq_ok.mpr
    ⟨holdsNull_normalize h hnull, hl.trans hspells.locate_eq.symm, hencloses⟩

/-! ### Paths seen from a directory -/

theorem toList_join (hpath : isAbsolute path = false) (hdir : dir ≠ "") :
    (join dir path).toList = if dir.toList.getLast? = some '/' then dir.toList ++ path.toList
      else dir.toList ++ '/' :: path.toList := by
  unfold join
  rw [hpath, if_neg Bool.false_ne_true]
  by_cases hends : dir.toList.getLast? = some '/'
  · simp [hends]
  · simp [hdir, hends]

/-- The components of a path seen from a directory are those of the directory and those of the path,
with a slash at the end of the directory left out. -/
theorem splitAt_join (hpath : isAbsolute path = false) (hdir : dir ≠ "") : ∃ components,
    Text.splitAt '/' (join dir path).toList = components ++ Text.splitAt '/' path.toList ∧
      (Text.splitAt '/' dir.toList = components ∨
        Text.splitAt '/' dir.toList = components ++ [[]]) := by
  rw [toList_join hpath hdir]
  split_ifs with hends
  · obtain ⟨before, hbefore⟩ := List.getLast?_eq_some_iff.mp hends
    refine ⟨Text.splitAt '/' before, ?_, .inr ?_⟩
    · rw [hbefore, List.append_assoc, List.singleton_append, Text.splitAt_append_cons]
    · rw [hbefore, Text.splitAt_append_cons]
      rfl
  · exact ⟨Text.splitAt '/' dir.toList, Text.splitAt_append_cons _ _ _, .inl rfl⟩

theorem isAbsolute_join_eq (hpath : isAbsolute path = false) (hdir : dir ≠ "") :
    isAbsolute (join dir path) = isAbsolute dir := by
  obtain ⟨c, rest, hcs⟩ := List.exists_cons_of_ne_nil (show dir.toList ≠ [] by simpa using hdir)
  unfold isAbsolute
  rw [toList_join hpath hdir, hcs]
  split_ifs
  · rfl
  · rfl

/-- A relative path is followed from where the directory leads. -/
theorem walkFrom_join (hpath : isAbsolute path = false) (hdir : dir ≠ "") (start : Location) :
    t.walkFrom start (FileTree.names (join dir path)) =
      (t.walkFrom start (FileTree.names dir)).bind fun k => t.walkFrom k (FileTree.names path) := by
  obtain ⟨components, hjoin, hdirectory⟩ := splitAt_join hpath hdir
  unfold FileTree.names
  rw [hjoin, List.map_append, FileTree.walkFrom_append]
  rcases hdirectory with hdirectory | hdirectory
  · rw [hdirectory]
  · rw [hdirectory, List.map_append, FileTree.walkFrom_append]
    rcases t.walkFrom start (components.map String.ofList) with errno | k
    · rfl
    · exact (FileTree.walkFrom_empty t k (FileTree.names_ne_nil path)).symm

theorem holdsNull_join (hpath : holdsNull path = false) (hdir : holdsNull dir = false) :
    holdsNull (join dir path) = false := by
  unfold holdsNull at hpath hdir ⊢
  rw [← Bool.not_eq_true, List.contains_iff_mem] at hpath hdir ⊢
  unfold join
  split_ifs
  · exact hpath
  · simp [hpath, hdir]
  · simp [hpath, hdir]

/-- A path seen from the current directory leads where the path itself leads, if the directory is
there. -/
theorem walk_join_current {current : String} (hcurrent : isAbsolute current)
    (hthere : t.walk [] current = .ok (FileTree.locate current))
    (hwalk : t.walk (FileTree.locate current) path = .ok l) (k : Location) :
    t.walk k (join current path) = .ok l := by
  obtain ⟨hempty, hnull, hfrom⟩ := walk_eq_ok_iff.mp hwalk
  obtain ⟨hcurrentEmpty, hcurrentNull, hcurrentFrom⟩ := walk_eq_ok_iff.mp hthere
  by_cases hpath : isAbsolute path
  · rw [if_pos hpath] at hfrom
    rw [join, if_pos hpath]
    exact walk_eq_ok_iff.mpr ⟨hempty, hnull, by rwa [if_pos hpath]⟩
  · rw [Bool.not_eq_true] at hpath
    rw [hpath, if_neg Bool.false_ne_true] at hfrom
    rw [if_pos hcurrent] at hcurrentFrom
    have habsolute := isAbsolute_join hcurrent path
    refine walk_eq_ok_iff.mpr ⟨?_, holdsNull_join hnull hcurrentNull, ?_⟩
    · rintro hjoin
      rw [hjoin] at habsolute
      cases habsolute
    · rw [if_pos habsolute, walkFrom_join hpath hcurrentEmpty, hcurrentFrom]
      exact hfrom

/-- A path leads where its absolute form leads. -/
theorem walk_absolute {current : String} (hcurrent : isAbsolute current)
    (hthere : t.walk [] current = .ok (FileTree.locate current))
    (hwalk : t.walk (FileTree.locate current) path = .ok l) (k : Location) :
    t.walk k (absolute current path) = .ok l :=
  walk_normalize (isAbsolute_join hcurrent path) (walk_join_current hcurrent hthere hwalk k) k

/-- The directory that a path was seen from is a directory. -/
theorem isDirectory_of_walk_join (hpath : isAbsolute path = false) (hdir : dir ≠ "")
    (hwalk : t.walk current (join dir path) = .ok l) : t.isDirectory current dir := by
  obtain ⟨-, hnull, hfrom⟩ := walk_eq_ok_iff.mp hwalk
  have hdirNull : holdsNull dir = false := by
    unfold holdsNull at hnull ⊢
    rw [← Bool.not_eq_true, List.contains_iff_mem, toList_join hpath hdir] at hnull
    rw [← Bool.not_eq_true, List.contains_iff_mem]
    split_ifs at hnull
    · exact fun hmem => hnull (List.mem_append_left _ hmem)
    · exact fun hmem => hnull (List.mem_append_left _ hmem)
  rw [isAbsolute_join_eq hpath hdir, walkFrom_join hpath hdir] at hfrom
  rcases hdirectory : t.walkFrom (if isAbsolute dir then [] else current) (FileTree.names dir) with
    errno | k
  · rw [hdirectory] at hfrom
    cases hfrom
  · rw [hdirectory] at hfrom
    obtain ⟨name, rest, hnames⟩ := List.exists_cons_of_ne_nil (FileTree.names_ne_nil path)
    rw [hnames] at hfrom
    have hk : t.get? k = some .directory := FileTree.get?_of_walkFrom_cons hfrom
    have hfind := FileTree.find_eq_ok.mpr ⟨walk_eq_ok_iff.mpr ⟨hdir, hdirNull, hdirectory⟩, hk⟩
    rw [FileTree.isDirectory, hfind]

/-- What leads to a directory leads to no file. -/
theorem isFile_of_walk_join (hpath : isAbsolute path = false)
    (hwalk : t.walk current (join dir path) = .ok l) : t.isFile current dir = false := by
  by_cases hdir : dir = ""
  · subst hdir
    rfl
  · have hthere := isDirectory_of_walk_join hpath hdir hwalk
    unfold FileTree.isDirectory at hthere
    unfold FileTree.isFile
    split at hthere
    next hfind => rw [hfind]
    next => cases hthere

/-! ### Names appended to a path -/

/-- A name at the end is never cancelled. -/
theorem cancel_concat {kept components : List (List Char)} {last : List Char}
    (hlast : IsName last) :
    cancel true kept (components ++ [last]) = cancel true kept components ++ [last] := by
  induction components generalizing kept with
  | nil => simp [cancel, hlast.not_nil, hlast.not_dot, hlast.not_dots]
  | cons c rest ih =>
    rw [List.cons_append]
    unfold cancel
    split_ifs
    · exact ih
    · exact ih
    · cases kept with
      | nil => exact ih
      | cons last' earlier =>
        dsimp only
        split_ifs
        · exact ih
        · exact ih
    · contradiction

theorem isAbsolute_of_isName (h : IsName name.toList) : isAbsolute name = false := by
  unfold isAbsolute
  rw [decide_eq_false_iff_not]
  exact fun hhead => h.not_slash (List.mem_of_head? hhead)

theorem splitAt_of_isName (h : IsName name.toList) : Text.splitAt '/' name.toList = [name.toList] :=
  Text.splitAt_of_not_mem h.not_slash

theorem rootSlashes_join (h : isAbsolute path) (hname : IsName name.toList) :
    rootSlashes (join path name).toList = rootSlashes path.toList := by
  have hne : path ≠ "" := by
    rintro rfl
    cases h
  unfold isAbsolute at h
  rw [decide_eq_true_eq, List.head?_eq_some_iff] at h
  obtain ⟨rest, hcs⟩ := h
  obtain ⟨c, others, hname'⟩ := List.exists_cons_of_ne_nil hname.not_nil
  have hc : c ≠ '/' := fun heq => hname.not_slash (by simp [hname', heq])
  rw [toList_join (isAbsolute_of_isName hname) hne, hcs, hname']
  -- At most three slashes at the beginning matter.
  rcases rest with _ | ⟨d, _ | ⟨e, rest⟩⟩
  · simp [rootSlashes, hc]
  · by_cases hd : d = '/'
    · simp [rootSlashes, hd, hc]
    · simp [rootSlashes, hd]
  · by_cases hd : d = '/'
    · by_cases he : e = '/'
      · subst hd he
        split_ifs <;> rfl
      · subst hd
        split_ifs <;> simp [rootSlashes, he]
    · split_ifs <;> simp [rootSlashes, hd]

theorem Spells.ext {slashes : List Char} {components : List (List Char)} {path' : String}
    (h : Spells slashes components path) (h' : Spells slashes components path') : path = path' :=
  String.toList_inj.mp (h.text.trans h'.text.symm)

/-- A name may be appended before or after a path is normalized. -/
theorem normalize_join (h : isAbsolute path) (hname : IsName name.toList) :
    normalize (join path name) = join (normalize path) name := by
  have hrelative := isAbsolute_of_isName hname
  have hne : path ≠ "" := by
    rintro rfl
    cases h
  have hcancel : cancel true [] (Text.splitAt '/' (join path name).toList) =
      cancel true [] (Text.splitAt '/' path.toList) ++ [name.toList] := by
    obtain ⟨components, hjoin, hdirectory⟩ := splitAt_join hrelative hne
    rw [hjoin, splitAt_of_isName hname, cancel_concat hname]
    rcases hdirectory with hdirectory | hdirectory
    · rw [hdirectory]
    · rw [hdirectory, ← cancel_filter true [] (components ++ [[]]), List.filter_append]
      simp [cancel_filter]
  have hwhole := spells_normalize (isAbsolute_join h name)
  rw [hcancel, rootSlashes_join h hname] at hwhole
  exact hwhole.ext ((spells_normalize h).join hname)

/-- A name may be appended before or after a path is seen from a directory. -/
theorem join_join {current : String} (hcurrent : current ≠ "") (dir : String)
    (hpath : isAbsolute path = false) :
    join current (join dir path) = join (join current dir) path := by
  by_cases hempty : dir = ""
  · subst hempty
    have hself : join "" path = path := by simp [join, hpath]
    have hne : join current "" ≠ "" := by
      rw [ne_eq, ← String.toList_eq_nil_iff, toList_join rfl hcurrent]
      split_ifs <;> simp [hcurrent]
    rw [hself, ← String.toList_inj, toList_join hpath hne, toList_join hpath hcurrent,
      toList_join rfl hcurrent]
    split_ifs <;> simp_all
  by_cases habsolute : isAbsolute dir
  · have hjoin : isAbsolute (join dir path) := by rwa [isAbsolute_join_eq hpath hempty]
    rw [join, if_pos hjoin, join.eq_1 current, if_pos habsolute]
  · rw [Bool.not_eq_true] at habsolute
    have hjoin : isAbsolute (join dir path) = false := by rwa [isAbsolute_join_eq hpath hempty]
    have hne : join current dir ≠ "" := by
      rw [ne_eq, ← String.toList_eq_nil_iff, toList_join habsolute hcurrent]
      split_ifs <;> simp [hempty]
    have hlast : (join current dir).toList.getLast? = dir.toList.getLast? := by
      rw [toList_join habsolute hcurrent]
      have hdir : dir.toList ≠ [] := by simpa using hempty
      split_ifs
      · rw [List.getLast?_append_of_ne_nil _ hdir]
      · rw [List.append_cons, List.getLast?_append_of_ne_nil _ hdir]
    rw [← String.toList_inj, toList_join hpath hne, hlast, toList_join hjoin hcurrent,
      toList_join hpath hempty, toList_join habsolute hcurrent]
    split_ifs <;> simp

/-- A name may be appended before or after a path is made absolute. -/
theorem absolute_join {current : String} (hcurrent : isAbsolute current) (dir : String)
    (hname : IsName name.toList) :
    absolute current (join dir name) = join (absolute current dir) name := by
  have hne : current ≠ "" := by
    rintro rfl
    cases hcurrent
  unfold absolute
  rw [join_join hne dir (isAbsolute_of_isName hname)]
  exact normalize_join (isAbsolute_join hcurrent dir) hname

/-! ### The form of messages -/

/-- The components of a path that lead somewhere. -/
def kept (path : String) : List (List Char) :=
  (Text.splitAt '/' path.toList).filter fun c => !(c.isEmpty || c = ['.'])

theorem not_slash_of_mem_kept {c : List Char} (h : c ∈ kept path) : '/' ∉ c :=
  Text.not_mem_of_mem_splitAt (List.mem_of_mem_filter h)

theorem ne_nil_of_mem_kept {c : List Char} (h : c ∈ kept path) : c ≠ [] := by
  have hkept := List.of_mem_filter h
  rintro rfl
  cases hkept

theorem map_kept (path : String) : (kept path).map String.ofList =
    (FileTree.names path).filter fun name => !(name = "" ∨ name = ".") := by
  rw [FileTree.names, List.filter_map, kept]
  congr 2
  funext c
  rw [Function.comp_apply]
  congr 1
  rw [Bool.eq_iff_iff, decide_eq_true_eq, FileTree.ofList_eq_skipped]

theorem joinWith_eq_nil {pieces : List (List Char)} (h : ∀ c ∈ pieces, c ≠ [])
    (hnil : Text.joinWith ['/'] pieces = []) : pieces = [] := by
  rcases pieces with _ | ⟨c, _ | ⟨second, rest⟩⟩
  · rfl
  · exact absurd hnil (h c List.mem_cons_self)
  · simp [Text.joinWith] at hnil

theorem display_cases (path : String) :
    (rootSlashes path.toList = [] ∧ kept path = [] ∧ display path = ".") ∨
      ((rootSlashes path.toList ≠ [] ∨ kept path ≠ []) ∧
        (display path).toList = rootSlashes path.toList ++ Text.joinWith ['/'] (kept path)) := by
  unfold display
  dsimp only
  rw [← kept]
  split_ifs with hempty
  · rw [List.isEmpty_iff, List.append_eq_nil_iff] at hempty
    exact .inl ⟨hempty.1, joinWith_eq_nil (fun c => ne_nil_of_mem_kept) hempty.2, rfl⟩
  · refine .inr ⟨?_, String.toList_ofList⟩
    by_contra hnone
    rw [not_or, not_not, not_not] at hnone
    rw [hnone.1, hnone.2] at hempty
    exact hempty rfl

theorem eq_slash_of_mem_rootSlashes {cs : List Char} {c : Char} (h : c ∈ rootSlashes cs) :
    c = '/' := by
  unfold rootSlashes at h
  split at h
  all_goals simp at h
  all_goals exact h

theorem rootSlashes_of_not_isAbsolute (h : isAbsolute path = false) :
    rootSlashes path.toList = [] := by
  unfold isAbsolute at h
  rw [decide_eq_false_iff_not] at h
  unfold rootSlashes
  split
  · next hcs => simp [hcs] at h
  · next hcs => simp [hcs] at h
  · next hcs => simp [hcs] at h
  · rfl

theorem display_ne_empty (path : String) : display path ≠ "" := by
  rcases display_cases path with ⟨-, -, hdot⟩ | ⟨hsome, htext⟩
  · rw [hdot]
    decide
  · rw [ne_eq, ← String.toList_eq_nil_iff, htext, List.append_eq_nil_iff]
    rintro ⟨hslashes, hbody⟩
    have hkept := joinWith_eq_nil (fun c => ne_nil_of_mem_kept) hbody
    exact hsome.elim (fun h => h hslashes) (fun h => h hkept)

theorem isAbsolute_display (path : String) : isAbsolute (display path) = isAbsolute path := by
  by_cases habsolute : isAbsolute path
  · rw [habsolute]
    have hroot := rootSlashes_of_isAbsolute habsolute
    rcases display_cases path with ⟨hnone, -, -⟩ | ⟨-, htext⟩
    · rcases hroot with hroot | hroot
      · simp [hroot] at hnone
      · simp [hroot] at hnone
    · unfold isAbsolute
      rw [htext]
      rcases hroot with hroot | hroot
      · simp [hroot]
      · simp [hroot]
  · rw [Bool.not_eq_true] at habsolute
    rw [habsolute]
    rcases display_cases path with ⟨-, -, hdot⟩ | ⟨hsome, htext⟩
    · rw [hdot]
      rfl
    · rw [rootSlashes_of_not_isAbsolute habsolute, List.nil_append] at htext
      unfold isAbsolute
      rw [htext, decide_eq_false_iff_not]
      obtain ⟨c, rest, hkept⟩ := List.exists_cons_of_ne_nil
        (hsome.resolve_left (not_not.mpr (rootSlashes_of_not_isAbsolute habsolute)))
      have hc : c ∈ kept path := hkept ▸ List.mem_cons_self
      rw [hkept, Text.head?_joinWith_cons _ (ne_nil_of_mem_kept hc)]
      exact fun hslash => not_slash_of_mem_kept hc (List.mem_of_head? hslash)

theorem holdsNull_display (h : holdsNull path = false) : holdsNull (display path) = false := by
  rcases display_cases path with ⟨-, -, hdot⟩ | ⟨-, htext⟩
  · rw [hdot]
    rfl
  · exact holdsNull_of_pieces htext (fun _ hslash => eq_slash_of_mem_rootSlashes hslash)
      (fun _ hpiece => List.mem_of_mem_filter hpiece) h

theorem splitAt_rootSlashes (path : String) (body : List Char) :
    Text.splitAt '/' (rootSlashes path.toList ++ body) =
      List.replicate (rootSlashes path.toList).length [] ++ Text.splitAt '/' body := by
  unfold rootSlashes
  split <;> simp [Text.splitAt, List.replicate]

/-- The names of the form of messages are those that lead somewhere, after others. -/
theorem names_display (path : String) : ∃ skipped : List String,
    (∀ name ∈ skipped, name = "" ∨ name = ".") ∧
      FileTree.names (display path) = skipped ++ (kept path).map String.ofList := by
  rcases display_cases path with ⟨-, hkept, hdot⟩ | ⟨-, htext⟩
  · refine ⟨["."], by simp, ?_⟩
    rw [hdot, hkept]
    rfl
  · set slashes := List.replicate (rootSlashes path.toList).length ([] : List Char)
    have hslashes : ∀ c ∈ slashes, c = [] := fun c hc => List.eq_of_mem_replicate hc
    have hempty : ∀ name ∈ slashes.map String.ofList, name = "" := by
      intro name hname
      obtain ⟨c, hc, rfl⟩ := List.mem_map.mp hname
      rw [hslashes c hc]
    rw [FileTree.names, htext, splitAt_rootSlashes, List.map_append]
    by_cases hkept : kept path = []
    · refine ⟨slashes.map String.ofList ++ [""], ?_, ?_⟩
      · intro name hname
        rcases List.mem_append.mp hname with hname | hname
        · exact .inl (hempty name hname)
        · exact .inl (List.mem_singleton.mp hname)
      · rw [hkept, List.map_nil, List.append_nil]
        rfl
    · refine ⟨slashes.map String.ofList, fun name hname => .inl (hempty name hname), ?_⟩
      rw [Text.splitAt_joinWith (fun c => not_slash_of_mem_kept) hkept]

/-- The form of messages leads where the path itself leads. -/
theorem walk_display (h : t.walk current path = .ok l) : t.walk current (display path) = .ok l := by
  obtain ⟨-, hnull, hfrom⟩ := walk_eq_ok_iff.mp h
  refine walk_eq_ok_iff.mpr ⟨display_ne_empty path, holdsNull_display hnull, ?_⟩
  rw [isAbsolute_display]
  obtain ⟨skipped, hskipped, hnames⟩ := names_display path
  obtain ⟨name, rest, hcons⟩ := List.exists_cons_of_ne_nil (FileTree.names_ne_nil path)
  have hstart := FileTree.get?_of_walkFrom_cons (hcons ▸ hfrom)
  rw [hnames, FileTree.walkFrom_skip hstart hskipped, map_kept]
  exact FileTree.walkFrom_filter hfrom

/-- A path that leads to a file in the form of messages leads to no directory. -/
theorem isDirectory_of_walk_display {content : ByteArray} {mode : Nat}
    (hwalk : t.walk current (display path) = .ok l)
    (hentry : t.get? l = some (.file content mode)) : t.isDirectory current path = false := by
  unfold FileTree.isDirectory
  rcases hfind : t.find current path with errno | ⟨k, entry⟩
  · rfl
  · obtain ⟨hwalk', hentry'⟩ := FileTree.find_eq_ok.mp hfind
    cases hwalk.symm.trans (walk_display hwalk')
    rw [hentry] at hentry'
    cases hentry'
    rfl

end Path

end ServerLauncher
