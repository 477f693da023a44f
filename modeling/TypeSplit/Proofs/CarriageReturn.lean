/-
  TypeSplit.Proofs.CarriageReturn — texts whose lines end with a carriage return and a newline.

  `crlf` puts a carriage return before every newline, and `moved` says where an offset of a text comes to lie in it.
  Everything that reads a text from one of its places on does in the wide text what it does in the narrow one: a carriage
  return is a blank as the newline is, and neither stands in a word, a bracket or a brace. Only a run of modifiers has
  ends in the wide text that the narrow one has not, between a carriage return and its newline; there no declaration goes
  on (`filter_modifierRun`).
  - `take_moved` / `drop_moved`: a cut of the wide text is the cut of the narrow one, widened.
  - `Blind`: a reader that does not see how lines end.
  - `readWith_blind`: so neither does the recogniser that tries it behind modifiers.
-/

import TypeSplit.Proofs.Grammar

namespace TypeSplit.Text

/-! ## Wide texts -/

/-- The text with two characters in the place of each newline. -/
def widen (x y : Char) (t : Text) : Text := t.flatMap fun c => if c = '\n' then [x, y] else [c]

/-- The text with a carriage return before each newline. -/
def crlf (t : Text) : Text := widen '\r' '\n' t

section

variable {x y c : Char} {p : Char → Bool} {t : Text}

theorem widen_newline (x y : Char) (t : Text) : widen x y ('\n' :: t) = x :: y :: widen x y t := rfl

theorem widen_cons (h : c ≠ '\n') (t : Text) : widen x y (c :: t) = c :: widen x y t := by
  rw [widen, List.flatMap_cons, if_neg h]
  rfl

theorem widen_append (x y : Char) (a b : Text) : widen x y (a ++ b) = widen x y a ++ widen x y b := List.flatMap_append

theorem reverse_widen (x y : Char) (t : Text) : (widen x y t).reverse = widen y x t.reverse := by
  induction t with
  | nil => rfl
  | cons c t ih =>
    by_cases hc : c = '\n'
    · subst hc
      rw [widen_newline, List.reverse_cons, List.reverse_cons, ih, List.reverse_cons, widen_append]
      simp [widen]
    · rw [widen_cons hc, List.reverse_cons, ih, List.reverse_cons, widen_append]
      simp [widen, hc]

theorem takeWhile_widen (hx : p x = p '\n') (hy : p y = p '\n') (t : Text) :
    (widen x y t).takeWhile p = widen x y (t.takeWhile p) := by
  induction t with
  | nil => rfl
  | cons c t ih =>
    by_cases hc : c = '\n'
    · subst hc
      rw [widen_newline, List.takeWhile_cons, List.takeWhile_cons, List.takeWhile_cons, hx, hy, ih]
      cases p '\n' <;> rfl
    · rw [widen_cons hc, List.takeWhile_cons, List.takeWhile_cons, ih]
      cases p c with
      | true => exact (widen_cons hc _).symm
      | false => rfl

theorem dropWhile_widen (hx : p x = p '\n') (hy : p y = p '\n') (t : Text) :
    (widen x y t).dropWhile p = widen x y (t.dropWhile p) := by
  induction t with
  | nil => rfl
  | cons c t ih =>
    by_cases hc : c = '\n'
    · subst hc
      rw [widen_newline, List.dropWhile_cons, List.dropWhile_cons, List.dropWhile_cons, hx, hy, ih]
      cases p '\n' <;> rfl
    · rw [widen_cons hc, List.dropWhile_cons, List.dropWhile_cons, ih]
      cases p c with
      | true => rfl
      | false => exact (widen_cons hc _).symm

theorem widen_of_not_mem (h : '\n' ∉ t) : widen x y t = t := by
  induction t with
  | nil => rfl
  | cons c t ih =>
    simp only [List.mem_cons, not_or] at h
    rw [widen_cons (Ne.symm h.1), ih h.2]

theorem length_widen (x y : Char) (t : Text) : (widen x y t).length = t.length + t.count '\n' := by
  induction t with
  | nil => rfl
  | cons c t ih =>
    by_cases hc : c = '\n'
    · subst hc
      rw [widen_newline, List.length_cons, List.length_cons, ih, List.length_cons, List.count_cons_self]
      omega
    · rw [widen_cons hc, List.length_cons, ih, List.length_cons, List.count_cons_of_ne hc]
      omega

theorem head?_widen (x y : Char) (t : Text) : (widen x y t).head? = t.head?.map fun c => if c = '\n' then x else c := by
  cases t with
  | nil => rfl
  | cons c t =>
    by_cases hc : c = '\n'
    · subst hc
      rfl
    · simp [widen_cons hc, hc]

/-- Which character a text goes on with matters only where newlines are told from others. -/
theorem any_head?_widen (hx : p x = p '\n') (t : Text) : (widen x y t).head?.any p = t.head?.any p := by
  rw [head?_widen]
  cases t.head? with
  | none => rfl
  | some c =>
    by_cases hc : c = '\n'
    · simp [hc, hx]
    · simp [hc]

end

variable {t : Text}

theorem crlf_newline (t : Text) : crlf ('\n' :: t) = '\r' :: '\n' :: crlf t := rfl

theorem crlf_cons {c : Char} (h : c ≠ '\n') (t : Text) : crlf (c :: t) = c :: crlf t := widen_cons h t

theorem crlf_append (a b : Text) : crlf (a ++ b) = crlf a ++ crlf b := widen_append ..

theorem reverse_crlf (t : Text) : (crlf t).reverse = widen '\n' '\r' t.reverse := reverse_widen ..

theorem isBlank_return : isBlank '\r' = isBlank '\n' := by decide

theorem isWord_return : isWord '\r' = isWord '\n' := by decide

theorem strip_crlf (t : Text) : strip (crlf t) = crlf (strip t) := by
  rw [strip, stripWhile, crlf, dropWhile_widen isBlank_return rfl, reverse_widen, dropWhile_widen rfl isBlank_return,
    reverse_widen]
  rfl

/-- A character in front of a wide text that is not part of the end of a line stands in front of the narrow text. -/
theorem cons_of_crlf {c : Char} {s : Text} (hc : c ≠ '\r') (h : crlf t = c :: s) : ∃ s', t = c :: s' ∧ s = crlf s' := by
  cases t with
  | nil => cases h
  | cons d t =>
    by_cases hd : d = '\n'
    · subst hd
      exact absurd (List.cons.inj h).1.symm hc
    · rw [crlf_cons hd] at h
      obtain ⟨rfl, rfl⟩ := List.cons.inj h
      exact ⟨t, rfl, rfl⟩

theorem cut?_crlf {sep : Char} (hr : sep ≠ '\r') (hn : sep ≠ '\n') (t : Text) :
    cut? sep (crlf t) = (cut? sep t).map fun x => (crlf x.1, crlf x.2) := by
  induction t with
  | nil => rfl
  | cons c t ih =>
    by_cases hc : c = '\n'
    · subst hc
      rw [crlf_newline]
      simp only [cut?, if_neg (Ne.symm hr), if_neg (Ne.symm hn), ih, Option.map_map]
      rfl
    · rw [crlf_cons hc]
      by_cases hs : c = sep
      · simp only [cut?, if_pos hs]
        rfl
      · simp only [cut?, if_neg hs, ih, Option.map_map]
        congr 1
        funext x
        simp [crlf_cons hc]

theorem isPrefixOf?_crlf {k : Text} (hr : '\r' ∉ k) (hn : '\n' ∉ k) (t : Text) :
    k.isPrefixOf? (crlf t) = (k.isPrefixOf? t).map crlf := by
  induction k generalizing t with
  | nil => rfl
  | cons c k ih =>
    simp only [List.mem_cons, not_or] at hr hn
    cases t with
    | nil => rfl
    | cons d t =>
      by_cases hd : d = '\n'
      · subst hd
        have h1 : (c == '\r') = false := by simpa using Ne.symm hr.1
        have h2 : (c == '\n') = false := by simpa using Ne.symm hn.1
        simp [crlf_newline, List.isPrefixOf?, h1, h2]
      · rw [crlf_cons hd]
        simp only [List.isPrefixOf?, ih hr.2 hn.2]
        split <;> rfl

/-! ## Offsets -/

def moved (t : Text) (p : Nat) : Nat := p + (t.take p).count '\n'

theorem moved_eq {p : Nat} (h : p ≤ t.length) : moved t p = (crlf (t.take p)).length := by
  rw [moved, crlf, length_widen, List.length_take, Nat.min_eq_left h]

theorem take_moved (t : Text) (p : Nat) : (crlf t).take (moved t p) = crlf (t.take p) := by
  rcases Nat.le_total p t.length with h | h
  · conv => lhs; rw [← List.take_append_drop p t, crlf_append, List.take_append_drop, moved_eq h]
    exact List.take_left
  · rw [List.take_of_length_le h, List.take_of_length_le]
    rw [moved, List.take_of_length_le h, crlf, length_widen]
    omega

theorem drop_moved (t : Text) (p : Nat) : (crlf t).drop (moved t p) = crlf (t.drop p) := by
  rcases Nat.le_total p t.length with h | h
  · conv => lhs; rw [← List.take_append_drop p t, crlf_append, List.take_append_drop, moved_eq h]
    exact List.drop_left
  · rw [List.drop_of_length_le h, List.drop_of_length_le]
    · rfl
    · rw [moved, List.take_of_length_le h, crlf, length_widen]
      omega

theorem moved_lt (t : Text) {p q : Nat} (h : p < q) : moved t p < moved t q := by
  have hle : (t.take p).count '\n' ≤ (t.take q).count '\n' :=
    (List.take_sublist_take_left (Nat.le_of_lt h)).count_le _
  unfold moved
  omega

theorem moved_lt_iff (t : Text) {p q : Nat} : moved t p < moved t q ↔ p < q := by
  constructor
  · intro h
    by_contra hle
    rcases Nat.lt_or_eq_of_le (Nat.le_of_not_lt hle) with hlt | rfl
    · have := moved_lt t hlt
      omega
    · omega
  · exact moved_lt t

theorem moved_take {p e : Nat} (h : p ≤ e) : moved (t.take e) p = moved t p := by
  rw [moved, List.take_take, Nat.min_eq_left h, moved]

theorem moved_zero (t : Text) : moved t 0 = 0 := by simp [moved]

theorem moved_length (t : Text) : moved t t.length = (crlf t).length := by
  rw [moved_eq (Nat.le_refl _), List.take_length]

theorem moved_add (t : Text) (p n : Nat) : moved t (p + n) = moved t p + moved (t.drop p) n := by
  rw [moved, moved, moved, List.take_add, List.count_append]
  omega

theorem moved_succ {p : Nat} {c : Char} (h : t[p]? = some c) : moved t (p + 1) = moved t p + if c = '\n' then 2 else 1 := by
  rw [moved, moved, List.take_add_one, h, List.count_append]
  by_cases hc : c = '\n'
  · subst hc
    simp
    omega
  · simp [hc]
    omega

end TypeSplit.Text

namespace TypeSplit.Declaration

open TypeSplit.Source (Cursor Recogniser)
open TypeSplit.Text (crlf crlf_append crlf_cons crlf_newline isBlank isBlank_return isWord isWord_return widen)

/-! ## Words and blanks -/

theorem word?_crlf (t : Text) : word? (crlf t) = (word? t).map fun x => (x.1, crlf x.2) := by
  have hword : (crlf t).takeWhile isWord = t.takeWhile isWord := by
    rw [crlf, Text.takeWhile_widen isWord_return rfl]
    refine Text.widen_of_not_mem fun hmem => ?_
    exact absurd (List.mem_takeWhile_imp hmem) (by decide)
  simp only [word?, hword]
  split
  · rfl
  · rw [crlf, Text.dropWhile_widen isWord_return rfl]
    rfl

theorem dropWhile_blank_crlf (t : Text) : (crlf t).dropWhile isBlank = crlf (t.dropWhile isBlank) :=
  Text.dropWhile_widen isBlank_return rfl t

theorem blanks?_crlf (t : Text) : blanks? (crlf t) = (blanks? t).map crlf := by
  cases t with
  | nil => rfl
  | cons c t =>
    by_cases hc : c = '\n'
    · subst hc
      have hnewline : isBlank '\n' = true := by decide
      rw [crlf_newline, blanks?, blanks?, isBlank_return, if_pos hnewline, if_pos hnewline, List.dropWhile_cons_of_pos hnewline,
        dropWhile_blank_crlf]
      rfl
    · rw [crlf_cons hc, blanks?, blanks?]
      split
      · rw [dropWhile_blank_crlf]
        rfl
      · rfl

/-! ## Readers -/

/-- A reader takes something off the front of a text. It does not see how lines end if it takes the same off the wide
text, and what it takes begins with a word. -/
structure Blind {α : Type} (read? : Text → Option (α × Text)) : Prop where
  crlf : ∀ t, read? (crlf t) = (read? t).map fun x => (x.1, crlf x.2)
  reads : ∀ {t a rest}, read? t = some (a, rest) → ∃ front, t = front ++ rest ∧ BeginsWord front

/-- So it does not read on from between a carriage return and its newline. -/
theorem Blind.newline {α : Type} {read? : Text → Option (α × Text)} (h : Blind read?) (t : Text) :
    read? ('\n' :: t) = none := by
  cases hread : read? ('\n' :: t) with
  | none => rfl
  | some x =>
    obtain ⟨_, hfront, c, _, rfl, hc⟩ := h.reads hread
    obtain rfl : '\n' = c := (List.cons.inj hfront).1
    exact absurd hc (by decide)

theorem typeArguments?_crlf (t : Text) : typeArguments? (crlf t) = (typeArguments? t).map crlf := by
  simp only [typeArguments?]
  split
  · rename_i s hs
    obtain ⟨s', rfl, rfl⟩ := Text.cons_of_crlf (by decide) hs
    simp only [Text.cut?_crlf (show '>' ≠ '\r' by decide) (by decide), Option.map_map]
    rfl
  · rename_i hother
    split
    · exact absurd (crlf_cons (by decide) _) (hother _)
    · rfl

theorem returnType?_crlf (t : Text) : returnType? (crlf t) = (returnType? t).map crlf := by
  simp only [returnType?, word?_crlf]
  cases word? t with
  | none => rfl
  | some x =>
    simp only [Option.map_some, Option.bind_eq_bind, Option.bind_some]
    split
    · rename_i s hs
      obtain ⟨s', hx, hs'⟩ := Text.cons_of_crlf (by decide) hs
      obtain ⟨s'', rfl, rfl⟩ := Text.cons_of_crlf (by decide) hs'.symm
      rw [hx]
      rfl
    · rename_i s hs
      obtain ⟨s', hx, rfl⟩ := Text.cons_of_crlf (by decide) hs
      rw [hx]
      rfl
    · rename_i hbrackets hquestion
      rw [typeArguments?_crlf]
      split
      · rename_i hx
        exact absurd (by rw [hx]; rfl) (hbrackets _)
      · rename_i hx
        exact absurd (by rw [hx]; rfl) (hquestion _)
      · rfl

theorem typeAndName?_crlf (t : Text) : typeAndName? (crlf t) = (typeAndName? t).map fun x => (x.1, crlf x.2) := by
  simp only [typeAndName?, returnType?_crlf]
  cases returnType? t with
  | none => rfl
  | some r =>
    simp only [Option.map_some, Option.bind_eq_bind, Option.bind_some, blanks?_crlf]
    cases blanks? r with
    | none => rfl
    | some s => exact word?_crlf s

/-- What stands last before blanks is the same at the end of a wide text. -/
theorem last_crlf (u : Text) : ((crlf u).reverse.dropWhile isBlank).head? = (u.reverse.dropWhile isBlank).head? := by
  rw [Text.reverse_crlf, Text.dropWhile_widen rfl isBlank_return, Text.head?_widen]
  cases h : (u.reverse.dropWhile isBlank).head? with
  | none => rfl
  | some c =>
    have hc := Text.stopsAt_dropWhile (p := isBlank) u.reverse c h
    have hne : c ≠ '\n' := by
      rintro rfl
      exact absurd hc (by decide)
    simp [hne]

theorem parametersAndBrace?_crlf (t : Text) : parametersAndBrace? (crlf t) = (parametersAndBrace? t).map crlf := by
  have hdrop : ∀ s, (crlf s).dropWhile (!endsParameters ·) = crlf (s.dropWhile (!endsParameters ·)) :=
    Text.dropWhile_widen (p := (!endsParameters ·)) (x := '\r') (y := '\n') rfl rfl
  have htake : ∀ s, (crlf s).takeWhile (!endsParameters ·) = crlf (s.takeWhile (!endsParameters ·)) :=
    Text.takeWhile_widen (p := (!endsParameters ·)) (x := '\r') (y := '\n') rfl rfl
  simp only [parametersAndBrace?, dropWhile_blank_crlf]
  split
  · rename_i s hs
    obtain ⟨s, hx, rfl⟩ := Text.cons_of_crlf (by decide) hs
    simp only [hx, hdrop, htake, last_crlf]
    split
    · rename_i r hr
      obtain ⟨r, hx', rfl⟩ := Text.cons_of_crlf (by decide) hr
      simp only [hx']
      split <;> rfl
    · rename_i hother
      split
      · rename_i hx'
        exact absurd (by rw [hx']; rfl) (hother _)
      · rfl
  · rename_i hother
    split
    · rename_i hx
      exact absurd (by rw [hx]; rfl) (hother _)
    · rfl

theorem methodTail?_blind : Blind methodTail? where
  crlf t := by
    simp only [methodTail?, typeAndName?_crlf]
    cases typeAndName? t with
    | none => rfl
    | some x =>
      simp only [Option.map_some, Option.bind_eq_bind, Option.bind_some, typeArguments?_crlf]
      cases typeArguments? x.2 with
      | none => rfl
      | some r =>
        simp only [Option.map_some, Option.bind_some, parametersAndBrace?_crlf]
        cases parametersAndBrace? r <;> rfl
  reads h := by
    obtain ⟨front, inner, hread, hword, -⟩ := methodTail?_opens _ _ _ h
    exact ⟨front ++ '{' :: inner, by rw [hread]; simp, hword.append _⟩

theorem accessor?_crlf (t : Text) : accessor? (crlf t) = (accessor? t).map crlf := by
  have hget : ∀ k : Text, '\r' ∉ k → '\n' ∉ k → k.isPrefixOf? (crlf t) = (k.isPrefixOf? t).map crlf :=
    fun k hr hn => Text.isPrefixOf?_crlf hr hn t
  simp only [accessor?, hget "get".toList (by decide) (by decide), hget "set".toList (by decide) (by decide),
    ← Option.map_or]
  cases ("get".toList.isPrefixOf? t).or ("set".toList.isPrefixOf? t) with
  | none => rfl
  | some r =>
    simp only [Option.map_some, Option.bind_eq_bind, Option.bind_some]
    rw [crlf, Text.any_head?_widen isWord_return]
    split <;> rfl

theorem propertyTail?_blind : Blind propertyTail? where
  crlf t := by
    simp only [propertyTail?, typeAndName?_crlf]
    cases typeAndName? t with
    | none => rfl
    | some x =>
      simp only [Option.map_some, Option.bind_eq_bind, Option.bind_some, dropWhile_blank_crlf]
      split
      · rename_i s hs
        obtain ⟨s, hx, rfl⟩ := Text.cons_of_crlf (by decide) hs
        rw [hx]
        simp only [dropWhile_blank_crlf, accessor?_crlf]
        cases accessor? (s.dropWhile isBlank) <;> rfl
      · rename_i hother
        split
        · rename_i hx
          exact absurd (by rw [hx]; rfl) (hother _)
        · rfl
  reads h := by
    obtain ⟨front, inner, hread, hword, -⟩ := propertyTail?_opens _ _ _ h
    exact ⟨front ++ '{' :: inner, by rw [hread]; simp, hword.append _⟩

theorem Word.return_not_mem {w : Text} (h : Word w) : '\r' ∉ w := fun hm => absurd (h.all _ hm) (by decide)
theorem Word.newline_not_mem {w : Text} (h : Word w) : '\n' ∉ w := fun hm => absurd (h.all _ hm) (by decide)

theorem nameAndBrace?_crlf (t : Text) : nameAndBrace? (crlf t) = (nameAndBrace? t).map fun x => (x.1, crlf x.2) := by
  simp only [nameAndBrace?, blanks?_crlf]
  cases blanks? t with
  | none => rfl
  | some r =>
    simp only [Option.map_some, Option.bind_eq_bind, Option.bind_some, word?_crlf]
    cases word? r with
    | none => rfl
    | some x =>
      simp only [Option.map_some, Option.bind_some, Text.cut?_crlf (show '{' ≠ '\r' by decide) (by decide)]
      cases Text.cut? '{' x.2 <;> rfl

def headerTail? (keywords : List Text) (t : Text) : Option ((Text × Text) × Text) :=
  keywords.findSome? fun keyword =>
    (keyword.isPrefixOf? t).bind fun t => (nameAndBrace? t).map fun x => ((keyword, x.1), x.2)

theorem headerTail?_blind {keywords : List Text} (hk : ∀ k ∈ keywords, Word k) : Blind (headerTail? keywords) where
  crlf t := by
    induction keywords with
    | nil => rfl
    | cons k keywords ih =>
      obtain ⟨hword, hrest⟩ := List.forall_mem_cons.mp hk
      simp only [headerTail?] at ih ⊢
      rw [List.findSome?_cons, List.findSome?_cons, ih hrest,
        Text.isPrefixOf?_crlf hword.return_not_mem hword.newline_not_mem]
      cases k.isPrefixOf? t with
      | none => rfl
      | some r =>
        simp only [Option.map_some, Option.bind_some, nameAndBrace?_crlf]
        cases nameAndBrace? r <;> rfl
  reads h := by
    obtain ⟨k, hmem, h⟩ := List.exists_of_findSome?_eq_some h
    obtain ⟨r, hr, h⟩ := Option.bind_eq_some_iff.mp h
    obtain ⟨⟨name, rest⟩, hname, heq⟩ := Option.map_eq_some_iff.mp h
    obtain ⟨b, tail, rfl, -⟩ := nameAndBrace?_eq_some_iff.mp hname
    cases heq
    rw [← List.isPrefixOf?_eq_some_iff_append_eq.mp hr]
    exact ⟨k ++ (b ++ (name ++ (tail ++ ['{']))), by simp, (hk k hmem).beginsWord _⟩

/-! ## Runs of modifiers -/

/-- The text does not begin between a carriage return and its newline. -/
def Tidy (t : Text) : Bool := t.head? != some '\n'

theorem tidy_crlf (t : Text) : Tidy (crlf t) = true := by
  cases t with
  | nil => rfl
  | cons c t =>
    by_cases hc : c = '\n'
    · subst hc
      rfl
    · rw [crlf_cons hc]
      simpa [Tidy] using hc

theorem eq_newline_of_not_tidy {t : Text} (h : Tidy t = false) : ∃ r, t = '\n' :: r := by
  cases t with
  | nil => cases h
  | cons c r =>
    have hc : c = '\n' := by simpa [Tidy] using h
    exact ⟨r, by rw [hc]⟩

theorem filter_map_crlf (ts : List Text) : (ts.map crlf).filter Tidy = ts.map crlf := by
  refine List.filter_eq_self.mpr fun x hx => ?_
  obtain ⟨t, -, rfl⟩ := List.mem_map.mp hx
  exact tidy_crlf t

theorem filter_afterBlanks (t : Text) : (afterBlanks (crlf t)).filter Tidy = (afterBlanks t).map crlf := by
  induction t with
  | nil => rfl
  | cons c t ih =>
    by_cases hc : c = '\n'
    · subst hc
      have hnewline : isBlank '\n' = true := by decide
      simp only [crlf_newline, afterBlanks, isBlank_return, hnewline, if_true, List.filter_append, ih, List.map_append]
      have hlast : [crlf t].filter Tidy ++ ['\n' :: crlf t].filter Tidy = [crlf t] := by
        rw [List.filter_cons_of_pos (tidy_crlf t)]
        rfl
      rw [List.append_assoc, hlast]
      rfl
    · simp only [crlf_cons hc, afterBlanks]
      split
      · rw [List.filter_append, ih, List.map_append]
        congr 1
        exact filter_map_crlf [t]
      · rfl

/-- What gives nothing may be left out first. -/
theorem flatMap_filter {α β : Type} {f : α → List β} {p : α → Bool} (h : ∀ x, p x = false → f x = []) (xs : List α) :
    (xs.filter p).flatMap f = xs.flatMap f := by
  induction xs with
  | nil => rfl
  | cons x xs ih =>
    cases hx : p x with
    | true => rw [List.filter_cons_of_pos hx, List.flatMap_cons, List.flatMap_cons, ih]
    | false => rw [List.filter_cons_of_neg (by simp [hx]), List.flatMap_cons, h x hx, ih, List.nil_append]

theorem modifierRun_eq (modifiers : List Text) (t : Text) :
    modifierRun modifiers t = (afterModifier modifiers t).flatMap (modifierRun modifiers) ++ [t] := by
  rw [modifierRun, List.flatMap_subtype (g := modifierRun modifiers) fun _ _ => rfl, List.unattach_attach]

section

variable {modifiers : List Text} (hm : ∀ m ∈ modifiers, Word m)

include hm

theorem filter_afterModifier (t : Text) :
    (afterModifier modifiers (crlf t)).filter Tidy = (afterModifier modifiers t).map crlf := by
  rw [afterModifier, afterModifier, List.filter_flatMap, List.map_flatMap]
  refine List.flatMap_congr fun m hmem => ?_
  rw [Text.isPrefixOf?_crlf (hm m hmem).return_not_mem (hm m hmem).newline_not_mem]
  cases m.isPrefixOf? t with
  | none => rfl
  | some r => exact filter_afterBlanks r

/-- No modifier begins with a newline. -/
theorem afterModifier_of_not_tidy {t : Text} (ht : Tidy t = false) : afterModifier modifiers t = [] := by
  refine List.eq_nil_iff_forall_not_mem.mpr fun r hr => ?_
  obtain ⟨m, hmem, b, rfl, -⟩ := mem_afterModifier_iff.mp hr
  obtain ⟨c, m, rfl, hc⟩ := (hm m hmem).cons
  obtain ⟨_, hnewline⟩ := eq_newline_of_not_tidy ht
  rw [(List.cons.inj hnewline).1] at hc
  exact absurd hc (by decide)

theorem modifierRun_of_not_tidy {t : Text} (ht : Tidy t = false) : modifierRun modifiers t = [t] := by
  rw [modifierRun_eq, afterModifier_of_not_tidy hm ht]
  rfl

/-- The ends of a run in the wide text are those in the narrow text, apart from some between a carriage return and its
newline. -/
theorem filter_modifierRun (t : Text) :
    (modifierRun modifiers (crlf t)).filter Tidy = (modifierRun modifiers t).map crlf := by
  -- The induction is on the text that is left: a modifier takes at least one character of it.
  induction hn : t.length using Nat.strongRecOn generalizing t with
  | ind n ih =>
    subst hn
    have huntidy : ∀ r, Tidy r = false → (modifierRun modifiers r).filter Tidy = [] := by
      intro r hr
      rw [modifierRun_of_not_tidy hm hr]
      simp [hr]
    rw [modifierRun_eq, modifierRun_eq modifiers t, List.filter_append, List.filter_flatMap, ← flatMap_filter huntidy,
      filter_afterModifier hm, List.map_append, List.map_flatMap, List.flatMap_map]
    congr 1
    · exact List.flatMap_congr fun r hr => ih r.length (length_lt_of_mem_afterModifier hr) r rfl
    · exact filter_map_crlf [t]

end

/-! ## Recognisers -/

theorem findSome?_filter {α β : Type} {f : α → Option β} {p : α → Bool} (h : ∀ x, p x = false → f x = none)
    (xs : List α) : (xs.filter p).findSome? f = xs.findSome? f := by
  induction xs with
  | nil => rfl
  | cons x xs ih =>
    cases hx : p x with
    | true => rw [List.filter_cons_of_pos hx, List.findSome?_cons, List.findSome?_cons, ih]
    | false => rw [List.filter_cons_of_neg (by simp [hx]), List.findSome?_cons, h x hx, ih]

theorem findSome?_congr {α β : Type} {f g : α → Option β} {xs : List α} (h : ∀ x ∈ xs, f x = g x) :
    xs.findSome? f = xs.findSome? g := by
  induction xs with
  | nil => rfl
  | cons x xs ih =>
    obtain ⟨hx, hxs⟩ := List.forall_mem_cons.mp h
    rw [List.findSome?_cons, List.findSome?_cons, hx, ih hxs]

def readWith {α : Type} (modifiers : List Text) (read? : Text → Option (α × Text)) : Recogniser α := fun c =>
  if startsHere c then
    (modifierRun modifiers c.ahead).findSome? fun t =>
      (read? t).map fun x => (x.1, c.ahead.length - x.2.length)
  else none

theorem typeHeader_eq (keywords : List Text) : typeHeader keywords = readWith typeModifiers (headerTail? keywords) := by
  funext c
  simp only [typeHeader, readWith, headerTail?, List.map_findSome?]
  congr 1
  refine congrArg (List.findSome? · _) (funext fun t => congrArg (List.findSome? · _) (funext fun k => ?_))
  cases hk : k.isPrefixOf? t with
  | none => simp [hk]
  | some r => cases hr : nameAndBrace? r <;> simp [hk, hr]

end TypeSplit.Declaration

namespace TypeSplit.Source

open TypeSplit.Text (crlf moved widen)

def Cursor.crlf (c : Cursor) : Cursor := ⟨widen '\n' '\r' c.behind, Text.crlf c.ahead⟩

theorem Cursor.at_moved (w : Text) (i : Nat) : at_ (Text.crlf w) (moved w i) = (at_ w i).crlf := by
  rw [at_, Text.take_moved, Text.drop_moved, Text.reverse_crlf]
  rfl

theorem Cursor.inLineComment_crlf (c : Cursor) : c.crlf.inLineComment = c.inLineComment := by
  have hline : ∀ b : Text, (widen '\n' '\r' b).takeWhile (· ≠ '\n') = b.takeWhile (· ≠ '\n') := by
    intro b
    induction b with
    | nil => rfl
    | cons x b ih =>
      by_cases hx : x = '\n'
      · subst hx
        rfl
      · rw [Text.widen_cons hx, List.takeWhile_cons, List.takeWhile_cons, ih]
  rw [inLineComment, inLineComment]
  show Text.hasPart _ ((widen '\n' '\r' c.behind).takeWhile (· ≠ '\n')) = _
  rw [hline]

structure Recogniser.Blind {α : Type} (accepts : Recogniser α) : Prop where
  crlf : ∀ c : Cursor, accepts c.crlf = (accepts c).map fun x => (x.1, moved c.ahead x.2)
  newline : ∀ c : Cursor, c.ahead.head? = some '\n' → accepts c = none

end TypeSplit.Source

namespace TypeSplit.Declaration

open TypeSplit.Source (Cursor)
open TypeSplit.Text (crlf crlf_append moved widen)

theorem startsHere_crlf (c : Cursor) : startsHere c.crlf = startsHere c := by
  show (!(widen '\n' '\r' c.behind).head?.any _) = _
  rw [Text.any_head?_widen rfl]
  rfl

/-- What is read behind a run is as long in the wide text as the place behind it is far. -/
theorem length_read_crlf {b front rest : Text} (h : b = front ++ rest) :
    (crlf b).length - (crlf rest).length = moved b (b.length - rest.length) := by
  have hlen : b.length - rest.length = front.length := by rw [h, List.length_append, Nat.add_sub_cancel]
  rw [hlen, Text.moved_eq (by rw [h, List.length_append]; omega), h, List.take_left, crlf_append, List.length_append,
    Nat.add_sub_cancel]

theorem readWith_blind {α : Type} {modifiers : List Text} {read? : Text → Option (α × Text)} (hm : ∀ m ∈ modifiers, Word m)
    (h : Blind read?) : (readWith modifiers read?).Blind where
  crlf c := by
    rw [readWith, readWith, startsHere_crlf]
    split
    · show (modifierRun modifiers (crlf c.ahead)).findSome?
        (fun t => (read? t).map fun x => (x.1, (crlf c.ahead).length - x.2.length)) = _
      rw [← findSome?_filter (p := Tidy), filter_modifierRun hm, List.findSome?_map, List.map_findSome?]
      · -- At an end of both runs the reader takes the same, and its length is that of all from the start of the run on.
        refine findSome?_congr fun t ht => ?_
        obtain ⟨run, -, hrun⟩ := mem_modifierRun_iff.mp ht
        simp only [Function.comp_apply, h.crlf, Option.map_map]
        refine Option.map_congr fun ⟨a, rest⟩ hx => ?_
        obtain ⟨front, hfront, -⟩ := h.reads hx
        have hsplit : c.ahead = (run ++ front) ++ rest := by rw [hrun, hfront, List.append_assoc]
        simp only [Function.comp_apply, length_read_crlf hsplit]
      · intro t ht
        obtain ⟨r, rfl⟩ := eq_newline_of_not_tidy ht
        rw [h.newline, Option.map_none]
    · rfl
  newline c hc := by
    have htidy : Tidy c.ahead = false := by simp [Tidy, hc]
    obtain ⟨r, hr⟩ := eq_newline_of_not_tidy htidy
    rw [readWith, modifierRun_of_not_tidy hm htidy]
    simp [hr, h.newline]

theorem typeHeader_blind {keywords : List Text} (hk : ∀ k ∈ keywords, Word k) : (typeHeader keywords).Blind := by
  rw [typeHeader_eq]
  exact readWith_blind typeModifiers_word (headerTail?_blind hk)

theorem memberWith_blind {tail? : Text → Option (Text × Text)} (h : Blind tail?) : (memberWith tail?).Blind :=
  readWith_blind memberModifiers_word h

end TypeSplit.Declaration
