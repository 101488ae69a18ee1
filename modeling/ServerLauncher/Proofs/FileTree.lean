import Mathlib.Data.List.Basic
import ServerLauncher.Machine.Files

/-!
# What lies where

How the changes of a file tree act on what lies at a location, and where paths lead.

## Main statements

* `FileTree.get?_put`, `FileTree.get?_erase`, `FileTree.get?_append`: what lies at a location after
  a change.
* `FileTree.walk_of_keeps`: a path leads to the same location as long as no directory is lost.
* `FileTree.walkFrom_eq_ok`: names that lead down are followed through directories.
-/

namespace ServerLauncher

/-! ## Changes -/

/-- The entry with bytes added to it, if it is a file. -/
def Entry.extend (bytes : ByteArray) : Entry → Entry
  | .directory => .directory
  | .file content mode => .file (content ++ bytes) mode

namespace FileTree

/-- What a location list says about a key is not changed by leaving out other keys. -/
theorem lookup_filter_ne {l k : Location} (h : k ≠ l) (entries : List (Location × Entry)) :
    (entries.filter (·.1 != l)).lookup k = entries.lookup k := by
  induction entries with
  | nil => rfl
  | cons entry rest ih =>
    obtain ⟨key, e⟩ := entry
    by_cases hkey : key = l
    · have hk : (k == key) = false := beq_false_of_ne (hkey ▸ h)
      have hdropped : ((key, e) :: rest).filter (·.1 != l) = rest.filter (·.1 != l) :=
        List.filter_cons_of_neg (by simpa using hkey)
      rw [hdropped, ih, List.lookup_cons, hk]
    · have hkept : ((key, e) :: rest).filter (·.1 != l) = (key, e) :: rest.filter (·.1 != l) :=
        List.filter_cons_of_pos (by simpa using hkey)
      rw [hkept, List.lookup_cons, List.lookup_cons, ih]

theorem lookup_filter_self (l : Location) (entries : List (Location × Entry)) :
    (entries.filter (·.1 != l)).lookup l = none := by
  rw [List.lookup_eq_none_iff]
  intro entry hmem
  have hne := (List.mem_filter.mp hmem).2
  rw [bne_iff_ne] at hne
  exact bne_iff_ne.mpr (Ne.symm hne)

@[simp] theorem get?_nil (t : FileTree) : t.get? [] = some .directory := rfl

variable {t t' : FileTree} {l k : Location} {e : Entry}

theorem ne_nil_of_not_directory (h : t.get? l ≠ some .directory) : l ≠ [] := by
  rintro rfl
  exact h (get?_nil t)

theorem get?_put (hl : l ≠ []) : (t.put l e).get? k = if k = l then some e else t.get? k := by
  by_cases hk : k = []
  · subst hk
    rw [if_neg (Ne.symm hl)]
    rfl
  · have hempty : k.isEmpty = false := by simpa using hk
    simp only [get?, hempty, put, List.lookup_cons]
    by_cases hkl : k = l
    · simp [hkl]
    · rw [beq_false_of_ne hkl, if_neg hkl]
      simpa using lookup_filter_ne hkl t.entries

theorem get?_erase (hl : l ≠ []) : (t.erase l).get? k = if k = l then none else t.get? k := by
  by_cases hk : k = []
  · subst hk
    rw [if_neg (Ne.symm hl)]
    rfl
  · have hempty : k.isEmpty = false := by simpa using hk
    simp only [get?, hempty, erase]
    by_cases hkl : k = l
    · rw [if_pos hkl, hkl]
      simpa using lookup_filter_self l t.entries
    · rw [if_neg hkl]
      simpa using lookup_filter_ne hkl t.entries

theorem get?_append (bytes : ByteArray) :
    (t.append l bytes).get? k =
      if k = l then (t.get? l).map (Entry.extend bytes) else t.get? k := by
  unfold append
  split
  · next content mode hfile =>
    have hl : l ≠ [] := by
      rintro rfl
      cases hfile
    rw [get?_put hl, hfile]
    rfl
  · next hother =>
    by_cases hk : k = l
    · rw [if_pos hk, hk]
      rcases hl : t.get? l with _ | _ | ⟨content, mode⟩
      · rfl
      · rfl
      · exact absurd hl (hother content mode)
    · rw [if_neg hk]

/-! ## Walking -/

/-- Directories are not lost. -/
def Keeps (t t' : FileTree) : Prop := ∀ l, t.get? l = some .directory → t'.get? l = some .directory

/-- Names are followed alike as long as no directory is lost. -/
theorem walkFrom_of_keeps (h : t.Keeps t') {names : List String} :
    ∀ {l}, t.walkFrom l names = .ok k → t'.walkFrom l names = .ok k := by
  induction names with
  | nil => exact fun hwalk => hwalk
  | cons name rest ih =>
    intro l hwalk
    unfold walkFrom at hwalk ⊢
    rcases hl : t.get? l with _ | _ | ⟨content, mode⟩
    · rw [hl] at hwalk
      cases hwalk
    · rw [hl] at hwalk
      rw [h l hl]
      dsimp only at hwalk ⊢
      split_ifs at hwalk ⊢
      · exact ih hwalk
      · exact ih hwalk
      · exact ih hwalk
    · rw [hl] at hwalk
      cases hwalk

/-- A path leads to the same location as long as no directory is lost. -/
theorem walk_of_keeps (h : t.Keeps t') {current : Location} {path : String}
    (hwalk : t.walk current path = .ok l) : t'.walk current path = .ok l := by
  unfold walk at hwalk ⊢
  split at hwalk
  · cases hwalk
  · next hvalid =>
    rw [if_neg hvalid]
    exact walkFrom_of_keeps h hwalk

theorem holdsNull_of_walk {current : Location} {path : String} (h : t.walk current path = .ok l) :
    Path.holdsNull path = false := by
  by_contra hnull
  rw [Bool.not_eq_false] at hnull
  rw [walk, hnull, Bool.or_true, if_pos rfl] at h
  cases h

/-- A name that leads down. -/
def IsStep (name : String) : Prop := name ≠ "" ∧ name ≠ "." ∧ name ≠ ".."

/-- Names that lead down are followed through directories to where they say. -/
theorem walkFrom_eq_ok {names : List String} (h : ∀ name ∈ names, IsStep name) :
    ∀ {l}, t.walkFrom l names = .ok k ↔
      k = l ++ names ∧ ∀ n < names.length, t.get? (l ++ names.take n) = some .directory := by
  induction names with
  | nil =>
    intro l
    simp [walkFrom, eq_comm]
  | cons name rest ih =>
    intro l
    rw [List.forall_mem_cons] at h
    obtain ⟨⟨hempty, hdot, hdots⟩, hrest⟩ := h
    unfold walkFrom
    rcases hl : t.get? l with _ | _ | ⟨content, mode⟩
    · constructor
      · exact fun hwalk => nomatch hwalk
      · rintro ⟨-, hdirs⟩
        have hfirst := hdirs 0 (Nat.succ_pos _)
        simp [hl] at hfirst
    · simp only [hempty, hdot, hdots, or_self, if_false]
      rw [ih hrest]
      constructor
      · rintro ⟨hk, hdirs⟩
        refine ⟨by simp [hk], fun n hn => ?_⟩
        cases n with
        | zero => simpa using hl
        | succ n => simpa using hdirs n (by simpa using hn)
      · rintro ⟨hk, hdirs⟩
        exact ⟨by simp [hk], fun n hn => by simpa using hdirs (n + 1) (by simpa using hn)⟩
    · constructor
      · exact fun hwalk => nomatch hwalk
      · rintro ⟨-, hdirs⟩
        have hfirst := hdirs 0 (Nat.succ_pos _)
        simp [hl] at hfirst

/-- What a path leads to is what lies where it leads. -/
theorem find_eq_ok {current : Location} {path : String} :
    t.find current path = .ok (l, e) ↔ t.walk current path = .ok l ∧ t.get? l = some e := by
  unfold find
  rcases t.walk current path with errno | k
  · simp [bind, Except.bind]
  · simp only [bind, Except.bind, pure, Except.pure, Except.ok.injEq]
    rcases hk : t.get? k with _ | e'
    · constructor
      · exact fun h => nomatch h
      · rintro ⟨rfl, he⟩
        rw [hk] at he
        cases he
    · constructor
      · intro h
        cases h
        exact ⟨rfl, hk⟩
      · rintro ⟨rfl, he⟩
        rw [hk] at he
        cases he
        rfl

/-- What is read is the content of the file that a path leads to. -/
theorem read_eq_ok {current : Location} {path : String} {content : ByteArray} :
    t.read current path = .ok content ↔
      ∃ l mode, t.walk current path = .ok l ∧ t.get? l = some (.file content mode) := by
  simp only [← find_eq_ok]
  unfold read
  rcases t.find current path with errno | ⟨l, _ | ⟨content', mode⟩⟩
  · simp [bind, Except.bind]
  · simp [bind, Except.bind]
  · simp [bind, Except.bind, pure, Except.pure]

section Files

variable {current : Location} {path : String} {content : ByteArray} {mode : Nat}

theorem status_of_file (hwalk : t.walk current path = .ok l)
    (hfile : t.get? l = some (.file content mode)) :
    t.status current path = .ok (content.size, mode) := by
  rw [status, find_eq_ok.mpr ⟨hwalk, hfile⟩]
  rfl

theorem setMode_of_file (hwalk : t.walk current path = .ok l)
    (hfile : t.get? l = some (.file content mode)) (mode' : Nat) :
    t.setMode current path mode' = .ok (t.put l (.file content (mode' % 0o10000))) := by
  rw [setMode, find_eq_ok.mpr ⟨hwalk, hfile⟩]
  rfl

theorem remove_of_file (hwalk : t.walk current path = .ok l)
    (hfile : t.get? l = some (.file content mode)) :
    t.remove current path = .ok (t.erase l) := by
  rw [remove, find_eq_ok.mpr ⟨hwalk, hfile⟩]
  rfl

end Files

end FileTree

end ServerLauncher
