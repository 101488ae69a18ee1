import ServerLauncher.Proofs.Decisions

/-!
# References in templates

A text is cut into literal characters and references in one way only: no reference is passed over,
and a name after a dollar sign goes as far as it can.  The pieces of a template are cut in this way,
and a resolved template is made of what its pieces stand for, one after the other.

A resolved template may hold references again, those that have been kept and those that the values
bring along or complete.  If no value can take part in a reference, a template is resolved by one
pass: what has been kept is found again, and nothing new is found.

A template may be resolved in parts, cut at a character that is part of no reference, such as a
slash.  Whatever stands unfinished before it stays unfinished.

## Main definitions

* `Template.IsName`, `Template.EndsName`, `Template.BeginsReference`: what a reference is.
* `Template.Decomposes`: a text is cut into pieces.
* `Template.Piece.StandsFor`: what a piece stands for.
* `Environment.IsInert`: no value can take part in a reference.
* `Template.Separates`: a character is part of no reference.

## Main statements

* `Template.decomposes_iff`: the pieces of a text are its only decomposition.
* `Template.resolve_decomposes`: the decomposition of a template gives what it is resolved to.
* `Template.resolve_idempotent`: a template that has been resolved stays as it is.
* `Template.Separates.pieces_append`: a template is cut into pieces on both sides separately.
* `Template.resolve_componentwise`: so it is resolved, and only such a character allows that.
-/

namespace ServerLauncher

namespace Template

/-! ## References -/

/-- A name of a variable: one or more of the characters of names. -/
def IsName (name : List Char) : Prop := name ≠ [] ∧ ∀ c ∈ name, isNameChar c

/-- A name that comes before a text ends there. -/
def EndsName (s : List Char) : Prop := ∀ c ∈ s.head?, isNameChar c = false

/-- A text begins with a reference, in one of the three forms. -/
def BeginsReference (s : List Char) : Prop :=
  ∃ form name rest, IsName name ∧ s = (Piece.reference form name).written ++ rest

/-- A text is cut into literal characters, where no reference begins, and references, of which those
after a dollar sign are as long as possible. -/
inductive Decomposes : List Char → List Piece → Prop where
  | nil : Decomposes [] []
  | literal {c : Char} {s : List Char} {ps : List Piece} (hnone : ¬BeginsReference (c :: s))
      (hs : Decomposes s ps) : Decomposes (c :: s) (.literal c :: ps)
  | reference {form : Form} {name s : List Char} {ps : List Piece} (hname : IsName name)
      (hmaximal : form = .dollar → EndsName s) (hs : Decomposes s ps) :
      Decomposes ((Piece.reference form name).written ++ s) (.reference form name :: ps)

section Names

variable {form : Form} {name s rest : List Char} {piece : Piece} {ps : List Piece} {c : Char}

theorem nameOf_append_afterName (s : List Char) : nameOf s ++ afterName s = s :=
  List.takeWhile_append_dropWhile

theorem isNameChar_of_mem_nameOf (hc : c ∈ nameOf s) : isNameChar c :=
  List.all_eq_true.mp List.all_takeWhile c hc

theorem isName_nameOf (h : nameOf s ≠ []) : IsName (nameOf s) :=
  ⟨h, fun _ => isNameChar_of_mem_nameOf⟩

theorem endsName_afterName (s : List Char) : EndsName (afterName s) := by
  intro c hc
  have hhead := List.head?_dropWhile_not isNameChar s
  rw [Option.mem_def] at hc
  unfold afterName at hc
  rw [hc] at hhead
  exact hhead

theorem EndsName.of_not_isNameChar (h : isNameChar c = false) (s : List Char) :
    EndsName (c :: s) := by
  rintro _ ⟨⟩
  exact h

theorem nameOf_append (hname : IsName name) (hs : EndsName s) : nameOf (name ++ s) = name := by
  unfold nameOf
  rw [List.takeWhile_append_of_pos hname.2]
  cases s with
  | nil => simp
  | cons c s => simp [hs c rfl]

theorem afterName_append (hname : IsName name) (hs : EndsName s) : afterName (name ++ s) = s := by
  unfold afterName
  rw [List.dropWhile_append_of_pos hname.2]
  cases s with
  | nil => rfl
  | cons c s => simp [hs c rfl]

theorem IsName.isEmpty (hname : IsName name) : name.isEmpty = false := by
  simpa using hname.1

/-- A reference that is written as long as possible is read. -/
theorem reference?_written (hname : IsName name) (hmaximal : form = .dollar → EndsName rest) :
    reference? ((Piece.reference form name).written ++ rest) =
      some (.reference form name, rest) := by
  cases form with
  | dollar =>
    have hrest := hmaximal rfl
    obtain ⟨c, more, rfl⟩ := List.exists_cons_of_ne_nil hname.1
    have hne : c ≠ '{' := by
      rintro rfl
      exact absurd (hname.2 '{' List.mem_cons_self) (by decide)
    have hread := nameOf_append hname hrest
    have hafter := afterName_append hname hrest
    rw [List.cons_append] at hread hafter
    show reference? ('$' :: c :: (more ++ rest)) = _
    unfold reference?
    split
    · next heq =>
      simp only [List.cons.injEq] at heq
      exact absurd heq.2.1 hne
    · next heq =>
      simp only [List.cons.injEq, true_and] at heq
      rw [← heq, hread, hafter]
      rfl
    · next heq => simp at heq
    · next hother _ => exact absurd rfl (hother _)
  | braces =>
    have hends : EndsName ('}' :: rest) := .of_not_isNameChar (by decide) rest
    show reference? ('$' :: '{' :: ((name ++ ['}']) ++ rest)) = _
    rw [List.append_assoc, List.singleton_append]
    unfold reference?
    simp only [nameOf_append hname hends, afterName_append hname hends, hname.isEmpty]
    rfl
  | percent =>
    have hends : EndsName ('%' :: rest) := .of_not_isNameChar (by decide) rest
    show reference? ('%' :: ((name ++ ['%']) ++ rest)) = _
    rw [List.append_assoc, List.singleton_append]
    unfold reference?
    simp only [nameOf_append hname hends, afterName_append hname hends, hname.isEmpty]
    rfl

/-- What is read is a reference, and it is as long as possible. -/
theorem reference?_eq_some (h : reference? s = some (piece, rest)) :
    ∃ form name, piece = .reference form name ∧ IsName name ∧
      (form = .dollar → EndsName rest) ∧ s = piece.written ++ rest := by
  unfold reference? at h
  split at h
  · next s =>
    split at h
    · next after hafter =>
      split_ifs at h with hempty
      cases h
      have hs := nameOf_append_afterName s
      rw [hafter] at hs
      refine ⟨.braces, nameOf s, rfl, isName_nameOf (by simpa using hempty), ?_, ?_⟩
      · rintro ⟨⟩
      · simp [Piece.written, hs]
    · cases h
  · next s _ =>
    split_ifs at h with hempty
    cases h
    refine ⟨.dollar, nameOf s, rfl, isName_nameOf (by simpa using hempty),
      fun _ => endsName_afterName s, ?_⟩
    simp [Piece.written, nameOf_append_afterName]
  · next s =>
    split at h
    · next after hafter =>
      split_ifs at h with hempty
      cases h
      have hs := nameOf_append_afterName s
      rw [hafter] at hs
      refine ⟨.percent, nameOf s, rfl, isName_nameOf (by simpa using hempty), ?_, ?_⟩
      · rintro ⟨⟩
      · simp [Piece.written, hs]
    · cases h
  · cases h

theorem reference?_eq_none_iff : reference? s = none ↔ ¬BeginsReference s := by
  constructor
  · rintro hnone ⟨form, name, rest, hname, rfl⟩
    -- A name after a dollar sign may go on in the rest.
    by_cases hform : form = .dollar
    · subst hform
      have hlong : IsName (name ++ nameOf rest) := by
        refine ⟨by simp [hname.1], fun c hc => ?_⟩
        rcases List.mem_append.mp hc with hc | hc
        · exact hname.2 c hc
        · exact isNameChar_of_mem_nameOf hc
      have hread : reference? ((Piece.reference .dollar _).written ++ _) = _ :=
        reference?_written hlong fun _ => endsName_afterName rest
      have hwritten : (Piece.reference .dollar (name ++ nameOf rest)).written ++ afterName rest =
          (Piece.reference .dollar name).written ++ rest := by
        simp [Piece.written, nameOf_append_afterName]
      rw [hwritten, hnone] at hread
      cases hread
    · rw [reference?_written hname fun h => absurd h hform] at hnone
      cases hnone
  · intro hbegins
    rcases hread : reference? s with _ | ⟨piece, rest⟩
    · rfl
    · obtain ⟨form, name, rfl, hname, -, hs⟩ := reference?_eq_some hread
      exact absurd ⟨form, name, rest, hname, hs⟩ hbegins

/-! ## Decompositions -/

theorem pieces_of_literal (hnone : ¬BeginsReference (c :: s)) :
    pieces (c :: s) = .literal c :: pieces s := by
  rw [pieces]
  split
  · next hread =>
    rw [reference?_eq_none_iff.mpr hnone] at hread
    cases hread
  · rfl

theorem pieces_of_reference (hname : IsName name) (hmaximal : form = .dollar → EndsName s) :
    pieces ((Piece.reference form name).written ++ s) = .reference form name :: pieces s := by
  rw [pieces]
  split
  · next hread =>
    rw [reference?_written hname hmaximal] at hread
    cases hread
    rfl
  · next hread =>
    rw [reference?_written hname hmaximal] at hread
    cases hread

theorem decomposes_pieces (s : List Char) : Decomposes s (pieces s) := by
  fun_induction pieces s with
  | case1 s piece rest hread hlt ih =>
    obtain ⟨form, name, rfl, hname, hmaximal, rfl⟩ := reference?_eq_some hread
    exact .reference hname hmaximal ih
  | case2 hread => exact .nil
  | case3 c rest hread ih => exact .literal (reference?_eq_none_iff.mp hread) ih

/-- The pieces of a text are its only decomposition. -/
theorem decomposes_iff : Decomposes s ps ↔ ps = pieces s := by
  constructor
  · intro h
    induction h with
    | nil => rw [pieces_nil]
    | literal hnone _ ih => rw [pieces_of_literal hnone, ih]
    | reference hname hmaximal _ ih => rw [pieces_of_reference hname hmaximal, ih]
  · rintro rfl
    exact decomposes_pieces s

end Names

/-! ## What pieces stand for -/

/-- What a piece stands for: a literal character for itself, a reference for the value of its
variable if that has one with at least one character, and else for itself. -/
inductive Piece.StandsFor (environment : Environment) : Piece → List Char → Prop where
  | literal (c : Char) : StandsFor environment (.literal c) [c]
  | value {form : Form} {name : List Char} {value : String}
      (hvalue : environment.get? (String.ofList name) = some value) (hne : value ≠ "") :
      StandsFor environment (.reference form name) value.toList
  | kept {form : Form} {name : List Char}
      (hnone : ∀ value, environment.get? (String.ofList name) = some value → value = "") :
      StandsFor environment (.reference form name) (reference form name).written

theorem Piece.standsFor_expand (environment : Environment) (piece : Piece) :
    piece.StandsFor environment (piece.expand environment) := by
  cases piece with
  | literal c => exact .literal c
  | reference form name =>
    rw [expand]
    split
    · next value hvalue =>
      split_ifs with hempty
      · rw [String.isEmpty_iff] at hempty
        refine .kept fun value' hvalue' => ?_
        rw [← Option.some_inj.mp (hvalue.symm.trans hvalue'), hempty]
      · exact .value hvalue (by simpa [String.isEmpty_iff] using hempty)
    · next hnone =>
      refine .kept fun value hvalue => ?_
      rw [hnone] at hvalue
      cases hvalue

/-- A piece stands for one thing only. -/
theorem Piece.StandsFor.eq_expand {environment : Environment} {piece : Piece} {text : List Char}
    (h : piece.StandsFor environment text) : text = piece.expand environment := by
  have hexpand := piece.standsFor_expand environment
  generalize piece.expand environment = text' at hexpand
  cases h with
  | literal c =>
    cases hexpand
    rfl
  | value hvalue hne =>
    cases hexpand with
    | value hvalue' _ => rw [Option.some_inj.mp (hvalue.symm.trans hvalue')]
    | kept hnone => exact absurd (hnone _ hvalue) hne
  | kept hnone =>
    cases hexpand with
    | value hvalue hne => exact absurd (hnone _ hvalue) hne
    | kept => rfl

theorem forall₂_standsFor_iff {environment : Environment} {ps : List Piece}
    {texts : List (List Char)} : List.Forall₂ (Piece.StandsFor environment) ps texts ↔
      texts = ps.map (Piece.expand environment) := by
  constructor
  · intro h
    induction h with
    | nil => rfl
    | cons hpiece _ ih => rw [hpiece.eq_expand, ih, List.map_cons]
  · rintro rfl
    rw [List.forall₂_map_right_iff, List.forall₂_same]
    exact fun piece _ => piece.standsFor_expand environment

/-- A template has one decomposition, and it is resolved to what the pieces of that stand for, one
after the other. -/
theorem resolve_decomposes (environment : Environment) (template : String) :
    ∃ ps, (∀ qs, Decomposes template.toList qs ↔ qs = ps) ∧
      ∀ text, resolve environment template = text ↔
        ∃ texts, List.Forall₂ (Piece.StandsFor environment) ps texts ∧
          text.toList = texts.flatten := by
  refine ⟨pieces template.toList, fun qs => decomposes_iff, fun text => ?_⟩
  have hflat : resolve environment template = text ↔
      text.toList = (pieces template.toList).flatMap (Piece.expand environment) := by
    unfold resolve
    rw [← String.toList_inj, String.toList_ofList, eq_comm]
  rw [hflat, List.flatMap]
  constructor
  · exact fun htext => ⟨_, forall₂_standsFor_iff.mpr rfl, htext⟩
  · rintro ⟨texts, htexts, htext⟩
    rw [htext, forall₂_standsFor_iff.mp htexts]

/-! ## Resolving twice -/

/-- The characters that a text is resolved to. -/
def resolved (environment : Environment) (s : List Char) : List Char :=
  (pieces s).flatMap (Piece.expand environment)

end Template

/-- No value can take part in a reference: none contains the marks at which references begin, or
begins with a character that a reference may go on with. -/
def Environment.IsInert (environment : Environment) : Prop :=
  ∀ name value, environment.get? name = some value → value ≠ "" →
    '$' ∉ value.toList ∧ '%' ∉ value.toList ∧
      ∀ c ∈ value.toList.head?, Template.isNameChar c = false ∧ c ≠ '{' ∧ c ≠ '}'

namespace Template

variable {environment : Environment} {form : Form} {name s t u : List Char} {c : Char}

theorem resolved_nil (environment : Environment) : resolved environment [] = [] := by
  rw [resolved, pieces_nil, List.flatMap_nil]

theorem resolved_literal (environment : Environment) (hnone : ¬BeginsReference (c :: s)) :
    resolved environment (c :: s) = c :: resolved environment s := by
  rw [resolved, pieces_of_literal hnone, List.flatMap_cons]
  rfl

theorem resolved_reference (environment : Environment) (hname : IsName name)
    (hmaximal : form = .dollar → EndsName s) :
    resolved environment ((Piece.reference form name).written ++ s) =
      (Piece.reference form name).expand environment ++ resolved environment s := by
  rw [resolved, pieces_of_reference hname hmaximal, List.flatMap_cons]
  rfl

/-- References begin with a mark. -/
theorem not_beginsReference (hdollar : c ≠ '$') (hpercent : c ≠ '%') (s : List Char) :
    ¬BeginsReference (c :: s) := by
  rintro ⟨form, name, rest, -, heq⟩
  cases form with
  | dollar => exact hdollar (List.cons_eq_cons.mp heq).1
  | braces => exact hdollar (List.cons_eq_cons.mp heq).1
  | percent => exact hpercent (List.cons_eq_cons.mp heq).1

/-- Where no mark is, nothing is resolved. -/
theorem resolved_append (environment : Environment) (hdollar : '$' ∉ s) (hpercent : '%' ∉ s)
    (t : List Char) : resolved environment (s ++ t) = s ++ resolved environment t := by
  induction s with
  | nil => rfl
  | cons c s ih =>
    rw [List.mem_cons, not_or] at hdollar hpercent
    have hnone := not_beginsReference (Ne.symm hdollar.1) (Ne.symm hpercent.1) (s ++ t)
    rw [List.cons_append, resolved_literal environment hnone, ih hdollar.2 hpercent.2,
      List.cons_append]

/-- A character that a reference may consist of is not the first of a value.  If it is no mark, it
is a literal character. -/
theorem resolved_eq_cons (hinert : environment.IsInert) (heq : resolved environment s = c :: t)
    (hc : isNameChar c ∨ c = '{' ∨ c = '}' ∨ c = '$' ∨ c = '%') :
    ∃ s', s = c :: s' ∧ (c ≠ '$' → c ≠ '%' → resolved environment s' = t) := by
  have hpieces := decomposes_pieces s
  generalize pieces s = ps at hpieces
  cases hpieces with
  | nil =>
    rw [resolved_nil] at heq
    cases heq
  | literal hnone _ =>
    rw [resolved_literal environment hnone] at heq
    cases heq
    exact ⟨_, rfl, fun _ _ => rfl⟩
  | @reference form name s _ hname hmaximal _ =>
    rw [resolved_reference environment hname hmaximal] at heq
    have hpiece := (Piece.reference form name).standsFor_expand environment
    generalize (Piece.reference form name).expand environment = text at hpiece heq
    cases hpiece with
    | @value _ _ value hvalue hne =>
      obtain ⟨hdollar, hpercent, hhead⟩ := hinert _ value hvalue hne
      have htext : value.toList ≠ [] := by simpa using hne
      obtain ⟨d, more, hcons⟩ := List.exists_cons_of_ne_nil htext
      rw [hcons] at hdollar hpercent hhead heq
      obtain ⟨rfl, -⟩ := List.cons_eq_cons.mp heq
      obtain ⟨hother, hopen, hclose⟩ := hhead d rfl
      rcases hc with hc | hc | hc | rfl | rfl
      · exact absurd (hother.symm.trans hc) Bool.false_ne_true
      · exact absurd hc hopen
      · exact absurd hc hclose
      · exact absurd List.mem_cons_self hdollar
      · exact absurd List.mem_cons_self hpercent
    | kept =>
      cases form with
      | dollar => cases heq; exact ⟨_, rfl, by simp⟩
      | braces => cases heq; exact ⟨_, rfl, by simp⟩
      | percent => cases heq; exact ⟨_, rfl, by simp⟩

/-- What is written in such characters, but for marks, has been written before. -/
theorem resolved_eq_append (hinert : environment.IsInert)
    (hu : ∀ c ∈ u, isNameChar c ∨ c = '{' ∨ c = '}') (heq : resolved environment s = u ++ t) :
    ∃ s', s = u ++ s' ∧ resolved environment s' = t := by
  induction u generalizing s with
  | nil => exact ⟨s, rfl, heq⟩
  | cons c u ih =>
    rw [List.forall_mem_cons] at hu
    obtain ⟨hc, hu⟩ := hu
    have hunmarked : c ≠ '$' ∧ c ≠ '%' := by
      constructor
      · rintro rfl
        revert hc
        decide
      · rintro rfl
        revert hc
        decide
    obtain ⟨s', rfl, hrest⟩ := resolved_eq_cons hinert heq (by tauto)
    obtain ⟨s'', rfl, ht⟩ := ih hu (hrest hunmarked.1 hunmarked.2)
    exact ⟨s'', rfl, ht⟩

/-- A name that ends before a text still does when the text is resolved. -/
theorem EndsName.resolved (hinert : environment.IsInert) (hs : EndsName s) :
    EndsName (resolved environment s) := by
  intro c hc
  by_contra hname
  rw [Bool.not_eq_false] at hname
  rw [Option.mem_def, List.head?_eq_some_iff] at hc
  obtain ⟨t, heq⟩ := hc
  obtain ⟨s', rfl, -⟩ := resolved_eq_cons hinert heq (.inl hname)
  exact absurd ((hs c rfl).symm.trans hname) Bool.false_ne_true

/-- A reference that begins before a resolved text has begun before the text. -/
theorem beginsReference_of_resolved (hinert : environment.IsInert)
    (h : BeginsReference (c :: resolved environment s)) : BeginsReference (c :: s) := by
  obtain ⟨form, name, rest, hname, heq⟩ := h
  cases form with
  | dollar =>
    obtain ⟨rfl, hrest⟩ : c = '$' ∧ resolved environment s = name ++ rest :=
      List.cons_eq_cons.mp heq
    obtain ⟨s', rfl, -⟩ := resolved_eq_append hinert (fun c hc => .inl (hname.2 c hc)) hrest
    exact ⟨.dollar, name, s', hname, rfl⟩
  | braces =>
    obtain ⟨rfl, hrest⟩ : c = '$' ∧ resolved environment s = '{' :: (name ++ ['}']) ++ rest :=
      List.cons_eq_cons.mp heq
    have hbraces : ∀ c ∈ '{' :: (name ++ ['}']), isNameChar c ∨ c = '{' ∨ c = '}' := by
      intro c hc
      simp only [List.mem_cons, List.mem_append, List.not_mem_nil, or_false] at hc
      rcases hc with hc | hc | hc
      · exact .inr (.inl hc)
      · exact .inl (hname.2 c hc)
      · exact .inr (.inr hc)
    obtain ⟨s', rfl, -⟩ := resolved_eq_append hinert hbraces hrest
    exact ⟨.braces, name, s', hname, rfl⟩
  | percent =>
    obtain ⟨rfl, hrest⟩ : c = '%' ∧ resolved environment s = name ++ ['%'] ++ rest :=
      List.cons_eq_cons.mp heq
    rw [List.append_assoc, List.singleton_append] at hrest
    obtain ⟨s', rfl, hs'⟩ := resolved_eq_append hinert (fun c hc => .inl (hname.2 c hc)) hrest
    obtain ⟨s'', rfl, -⟩ := resolved_eq_cons hinert hs' (by tauto)
    exact ⟨.percent, name, s'', hname, by simp [Piece.written]⟩

/-- What is resolved once need not be resolved again. -/
theorem resolved_resolved (hinert : environment.IsInert) (s : List Char) :
    resolved environment (resolved environment s) = resolved environment s := by
  have hpieces := decomposes_pieces s
  generalize pieces s = ps at hpieces
  induction hpieces with
  | nil => rw [resolved_nil, resolved_nil]
  | literal hnone _ ih =>
    have hnone' := mt (beginsReference_of_resolved hinert) hnone
    rw [resolved_literal environment hnone, resolved_literal environment hnone', ih]
  | @reference form name s _ hname hmaximal _ ih =>
    rw [resolved_reference environment hname hmaximal]
    have hpiece := (Piece.reference form name).standsFor_expand environment
    generalize hexpand : (Piece.reference form name).expand environment = text at hpiece ⊢
    cases hpiece with
    | value hvalue hne =>
      obtain ⟨hdollar, hpercent, -⟩ := hinert _ _ hvalue hne
      rw [resolved_append environment hdollar hpercent, ih]
    | kept =>
      have hmaximal' := fun hform => (hmaximal hform).resolved hinert
      rw [resolved_reference environment hname hmaximal', hexpand, ih]

/-- If no value can take part in a reference, resolving a template again changes nothing. -/
theorem resolve_idempotent (hinert : environment.IsInert) (template : String) :
    resolve environment (resolve environment template) = resolve environment template := by
  have hresolve : ∀ template, resolve environment template =
      String.ofList (resolved environment template.toList) := fun _ => rfl
  rw [hresolve template, hresolve, String.toList_ofList, resolved_resolved hinert]

/-- References that are kept, of which two share a mark, and values between unfinished ones. -/
theorem resolve_idempotent_entangled :
    let environment : Environment := [("HOME", "/opt"), ("EMPTY", "")]
    let template := "$HOME/${HOME$HOME}%EMPTY%HOME%$$NONE$HOME%"
    environment.IsInert ∧
    resolve environment template = "/opt/${HOME/opt}%EMPTY%HOME%$$NONE/opt%" ∧
    resolve environment (resolve environment template) = resolve environment template := by
  intro environment template
  have hinert : environment.IsInert := by
    intro name value hvalue hne
    obtain ⟨before, after, heq, -⟩ := List.lookup_eq_some_iff.mp hvalue
    have hmem : (name, value) ∈ environment := by simp [heq]
    simp only [environment, List.mem_cons, Prod.mk.injEq, List.not_mem_nil, or_false] at hmem
    rcases hmem with ⟨-, rfl⟩ | ⟨-, rfl⟩
    · have hhead : "/opt".toList.head? = some '/' := by decide +kernel
      refine ⟨by decide +kernel, by decide +kernel, fun c hc => ?_⟩
      rw [hhead] at hc
      cases hc
      decide
    · exact absurd rfl hne
  exact ⟨hinert, by decide +kernel, resolve_idempotent hinert template⟩

/-- A value that is a reference itself takes a second pass. -/
example : resolve [("HOME", "/opt"), ("ROOT", "$HOME")] "$ROOT" = "$HOME" ∧
    resolve [("HOME", "/opt"), ("ROOT", "$HOME")] "$HOME" = "/opt" := by
  decide +kernel

/-! ## Parts of a template -/

/-- A character that is part of no reference. -/
def Separates (c : Char) : Prop := isNameChar c = false ∧ c ∉ ['$', '{', '}', '%']

theorem Separates.not_mem_written (hc : Separates c) (form : Form) (hname : IsName name) :
    c ∉ (Piece.reference form name).written := by
  have hother : c ∉ name := by
    intro hmem
    exact absurd (hc.1.symm.trans (hname.2 c hmem)) Bool.false_ne_true
  obtain ⟨-, hmarks⟩ := hc
  simp only [List.mem_cons, List.not_mem_nil, or_false, not_or] at hmarks
  obtain ⟨hdollar, hopen, hclose, hpercent⟩ := hmarks
  cases form with
  | dollar => simp [Piece.written, hother, hdollar]
  | braces => simp [Piece.written, hother, hdollar, hopen, hclose]
  | percent => simp [Piece.written, hother, hpercent]

/-- A reference that begins before such a character ends before it. -/
theorem Separates.beginsReference (hc : Separates c) (h : BeginsReference (s ++ c :: t)) :
    BeginsReference s := by
  obtain ⟨form, name, rest, hname, heq⟩ := h
  rcases List.append_eq_append_iff.mp heq with ⟨more, hwritten, hmore⟩ | ⟨more, hs, -⟩
  · cases more with
    | nil => exact ⟨form, name, [], hname, by simpa using hwritten.symm⟩
    | cons d more =>
      obtain ⟨rfl, -⟩ := List.cons_eq_cons.mp hmore
      refine absurd ?_ (hc.not_mem_written form hname)
      rw [hwritten]
      exact List.mem_append_right s List.mem_cons_self
  · exact ⟨form, name, more, hname, hs⟩

theorem Separates.endsName (hc : Separates c) (hs : EndsName s) (t : List Char) :
    EndsName (s ++ c :: t) := by
  cases s with
  | nil => exact .of_not_isNameChar hc.1 t
  | cons d s => exact .of_not_isNameChar (hs d rfl) _

/-- Such a character is a piece of its own, and what stands before it is cut as if nothing
followed. -/
theorem Separates.pieces_append (hc : Separates c) (s t : List Char) :
    pieces (s ++ c :: t) = pieces s ++ .literal c :: pieces t := by
  refine (decomposes_iff.mp ?_).symm
  have hpieces := decomposes_pieces s
  generalize pieces s = ps at hpieces ⊢
  induction hpieces with
  | nil =>
    have hnone : ¬BeginsReference (c :: t) := fun h => by
      obtain ⟨form, name, rest, -, heq⟩ := hc.beginsReference (s := []) h
      cases form <;> cases heq
    exact .literal hnone (decomposes_pieces t)
  | @literal d s ps hnone _ ih =>
    exact .literal (fun h => hnone (hc.beginsReference (s := d :: s) h)) ih
  | @reference form name s ps hname hmaximal _ ih =>
    rw [List.append_assoc]
    exact .reference hname (fun hform => hc.endsName (hmaximal hform) t) ih

theorem Separates.resolved_append (hc : Separates c) (environment : Environment)
    (s t : List Char) :
    resolved environment (s ++ c :: t) = resolved environment s ++ c :: resolved environment t := by
  rw [resolved, hc.pieces_append, List.flatMap_append, List.flatMap_cons]
  rfl

/-- The texts on both sides of such a character are resolved independently. -/
theorem Separates.resolve_append (hc : Separates c) (environment : Environment) (s t : String) :
    resolve environment (s ++ String.singleton c ++ t) =
      resolve environment s ++ String.singleton c ++ resolve environment t := by
  have hresolve : ∀ template, (resolve environment template).toList =
      resolved environment template.toList := fun _ => String.toList_ofList
  rw [← String.toList_inj, String.toList_append, String.toList_append, hresolve, hresolve, hresolve,
    String.toList_append, String.toList_append, String.toList_singleton, List.append_assoc,
    List.append_assoc]
  exact hc.resolved_append environment s.toList t.toList

/-- A character of names would make the name before it longer. -/
theorem not_isNameChar_of_resolve (h : resolve [("A", "x")] ("$A" ++ String.singleton c) =
    resolve [("A", "x")] "$A" ++ String.singleton c) : isNameChar c = false := by
  by_contra hname
  rw [Bool.not_eq_false] at hname
  have hlong : IsName ['A', c] := by
    refine ⟨List.cons_ne_nil _ _, fun d hd => ?_⟩
    simp only [List.mem_cons, List.not_mem_nil, or_false] at hd
    rcases hd with rfl | rfl
    · decide
    · exact hname
  have hmissing : Environment.get? [("A", "x")] (String.ofList ['A', c]) = none := by
    have hne : String.ofList ['A', c] ≠ "A" := by
      intro heq
      have hlength := congrArg String.length heq
      simp at hlength
    simp only [Environment.get?, List.lookup_cons, List.lookup_nil, beq_false_of_ne hne]
  have hread : resolved [("A", "x")] ((Piece.reference .dollar ['A', c]).written ++ []) = _ :=
    resolved_reference _ hlong fun _ => by simp [EndsName]
  rw [resolved_nil, Piece.expand, hmissing] at hread
  have hkept : resolve [("A", "x")] ("$A" ++ String.singleton c) = String.ofList ['$', 'A', c] := by
    have htext : ("$A" ++ String.singleton c).toList = ['$', 'A', c] := by simp
    unfold resolve
    rw [htext]
    exact congrArg String.ofList hread
  have hvalue : resolve [("A", "x")] "$A" = "x" := by decide +kernel
  rw [hkept, hvalue] at h
  have htexts := congrArg String.toList h
  simp at htexts

/-- Of every other character there are texts that together hold a reference. -/
theorem separates_of_resolve (h : ∀ environment s t,
    resolve environment (s ++ String.singleton c ++ t) =
      resolve environment s ++ String.singleton c ++ resolve environment t) : Separates c := by
  have hdollar : c ≠ '$' := by
    rintro rfl
    exact absurd (h [("A", "x")] "" "A") (by decide +kernel)
  have hopen : c ≠ '{' := by
    rintro rfl
    exact absurd (h [("A", "x")] "$" "A\x7d") (by decide +kernel)
  have hclose : c ≠ '}' := by
    rintro rfl
    exact absurd (h [("A", "x")] "$\x7bA" "") (by decide +kernel)
  have hpercent : c ≠ '%' := by
    rintro rfl
    exact absurd (h [("A", "x")] "%A" "") (by decide +kernel)
  have hlast := h [("A", "x")] "$A" ""
  rw [resolve_empty, String.append_empty, String.append_empty] at hlast
  exact ⟨not_isNameChar_of_resolve hlast, by simp [hdollar, hopen, hclose, hpercent]⟩

theorem Separates.resolve_intercalate (hc : Separates c) (environment : Environment)
    (parts : List String) : resolve environment ((String.singleton c).intercalate parts) =
      (String.singleton c).intercalate (parts.map (resolve environment)) := by
  induction parts with
  | nil => exact resolve_empty environment
  | cons part parts ih =>
    cases parts with
    | nil => rfl
    | cons second parts =>
      rw [String.intercalate_cons_cons, hc.resolve_append, ih]
      exact String.intercalate_cons_cons.symm

/-- Just the characters that are part of no reference have texts on both sides resolved
independently.  A slash is one of them, so that each component of a path is resolved by itself. -/
theorem resolve_componentwise :
    (∀ c, Separates c ↔ ∀ environment s t, resolve environment (s ++ String.singleton c ++ t) =
      resolve environment s ++ String.singleton c ++ resolve environment t) ∧
    ∀ environment path, resolve environment path =
      "/".intercalate ((FileTree.names path).map (resolve environment)) := by
  have hslash : Separates '/' := ⟨by decide, by decide⟩
  refine ⟨fun c => ⟨fun hc => hc.resolve_append, separates_of_resolve⟩, fun environment path => ?_⟩
  have hparts := hslash.resolve_intercalate environment (FileTree.names path)
  rw [FileTree.names, Text.intercalate_splitAt] at hparts
  exact hparts

/-- An unfinished reference on each side of a slash stays unfinished. -/
example : resolve [("HOME", "/opt"), ("ME", "x")] "$HOME/${HO/ME}%ME/ME%" =
    "/opt/${HO/ME}%ME/ME%" := by
  decide +kernel

end Template

end ServerLauncher
