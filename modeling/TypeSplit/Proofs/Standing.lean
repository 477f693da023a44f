/-
  TypeSplit.Proofs.Standing — members that stand on lines of their own, and their other layouts.

  What comes before a member on lines of its own does not matter to what is recognised inside it: a comment that a
  place of the member lies in begins inside the member (`inLineComment_stands`). So a member laid out in another way,
  in another text, holds the same comments and the same type headers (`typeHeader_moves`), and it is itself recognised
  there with its kind and its name (`MemberText.accepts`).
-/

import TypeSplit.Proofs.Lines
import TypeSplit.Proofs.MemberHead

namespace TypeSplit.Source

open TypeSplit.Text (Alike StopsAt isBlank isWord)

theorem Cursor.at_append (a b : Text) : Cursor.at_ (a ++ b) a.length = ⟨a.reverse, b⟩ := by
  simp [Cursor.at_]

/-! ## Comments -/

theorem inLineComment_iff {x y : Text} :
    (Cursor.mk x.reverse y).inLineComment = true ↔ ∃ a b, x = a ++ '/' :: '/' :: b ∧ '\n' ∉ b := by
  simp only [Cursor.inLineComment, Text.hasPart_iff]
  constructor
  · intro hsplit
    obtain ⟨s, e, h⟩ := hsplit
    refine ⟨(e ++ x.reverse.dropWhile (· ≠ '\n')).reverse, s.reverse, ?_, ?_⟩
    · have hx := List.takeWhile_append_dropWhile (p := (· ≠ '\n')) (l := x.reverse)
      rw [← h] at hx
      simpa using (congrArg List.reverse hx).symm
    · intro hn
      have : '\n' ∈ s ++ ['/', '/'] ++ e := by simp [List.mem_reverse.mp hn]
      exact newline_not_mem_takeWhile x.reverse (h ▸ this)
  · intro hsplit
    obtain ⟨a, b, hx, hn⟩ := hsplit
    have hrev : x.reverse = b.reverse ++ ['/', '/'] ++ a.reverse := by simp [hx]
    have hall : ∀ c ∈ b.reverse ++ ['/', '/'], decide (c ≠ '\n') = true := by
      intro c hc
      rcases List.mem_append.mp hc with hc | hc
      · simpa using fun hcn : c = '\n' => hn (hcn ▸ List.mem_reverse.mp hc)
      · simp only [List.mem_cons, List.not_mem_nil, or_false, or_self] at hc
        subst hc
        decide
    rw [hrev, List.takeWhile_append_of_pos hall]
    exact ⟨b.reverse, _, rfl⟩

/-- A comment on a line that nothing but blanks stood on begins behind them. -/
theorem inLineComment_fresh {a x y : Text} (ha : Fresh a) :
    (Cursor.mk (a ++ x).reverse y).inLineComment = true ↔ (Cursor.mk x.reverse y).inLineComment = true := by
  rw [inLineComment_iff, inLineComment_iff]
  constructor
  · intro hsplit
    obtain ⟨u, v, h, hn⟩ := hsplit
    rcases List.append_eq_append_iff.mp h with ⟨w, rfl, hx⟩ | ⟨w, rfl, hx⟩
    · exact ⟨w, v, hx, hn⟩
    · cases w with
      | nil => exact ⟨[], v, by simpa using hx.symm, hn⟩
      | cons c w =>
        -- The first of the two characters would be the last one on a line of blanks.
        obtain ⟨rfl, hw⟩ := List.cons.inj hx
        have hmem : '/' ∈ (u ++ '/' :: w).reverse.takeWhile (· ≠ '\n') := by
          have hrev : (u ++ '/' :: w).reverse = w.reverse ++ ['/'] ++ u.reverse := by simp
          have hall : ∀ c ∈ w.reverse ++ ['/'], decide (c ≠ '\n') = true := by
            intro c hc
            have hc : c ∈ '/' :: '/' :: v := by
              rcases List.mem_append.mp hc with hc | hc
              · exact List.mem_cons_of_mem _ (hw ▸ List.mem_append_left _ (List.mem_reverse.mp hc))
              · exact List.mem_singleton.mp hc ▸ List.mem_cons_self
            refine decide_eq_true fun hcn => ?_
            subst hcn
            simp [hn] at hc
          rw [hrev, List.takeWhile_append_of_pos hall]
          simp
        exact absurd (ha _ hmem) (by decide)
  · intro hsplit
    obtain ⟨u, v, h, hn⟩ := hsplit
    exact ⟨a ++ u, v, by simp [h], hn⟩

/-- Whether a place inside a part lies in a comment does not depend on the layout of the part. -/
theorem inLineComment_stands {a a' x x' y y' : Text} (ha : Fresh a) (ha' : Fresh a') (h : Alike x x') :
    (Cursor.mk (a ++ x).reverse y).inLineComment = (Cursor.mk (a' ++ x').reverse y').inLineComment := by
  have moves : ∀ {x x' y y' : Text}, Alike x x' → (Cursor.mk x.reverse y).inLineComment = true →
      (Cursor.mk x'.reverse y').inLineComment = true := by
    intro x x' y y' h hc
    obtain ⟨u, v, rfl, hn⟩ := inLineComment_iff.mp hc
    have hslashes : ∀ c ∈ ['/', '/'], isBlank c = false :=
      List.forall_mem_cons.mpr ⟨by decide, List.forall_mem_singleton.mpr (by decide)⟩
    obtain ⟨u', v', rfl, -, hv⟩ := Alike.split_text (by simp) hslashes h
    exact inLineComment_iff.mpr ⟨u', v', rfl, fun hm => hn ((hv.mem_iff (.inr rfl)).mpr hm)⟩
  rw [Bool.eq_iff_iff, inLineComment_fresh ha, inLineComment_fresh ha']
  exact ⟨moves h, moves h.symm⟩

/-! ## Starts of declarations -/

theorem Fresh.stopsAt {a : Text} (ha : Fresh a) {p : Char → Bool} (hp : ∀ c, isBlank c = true → p c = false) :
    StopsAt p a.reverse := by
  cases hr : a.reverse with
  | nil => simp
  | cons c r =>
    refine Text.stopsAt_cons.mpr (hp c ?_)
    by_cases hc : c = '\n'
    · subst hc
      decide
    · refine ha c ?_
      rw [hr, List.takeWhile_cons_of_pos (by simpa using hc)]
      exact List.mem_cons_self

theorem blank_starts (c : Char) (hc : isBlank c = true) : (isWord c || c == '.') = false := by
  have hdot : c ≠ '.' := fun hcd => absurd (hcd ▸ hc) (by decide)
  simp [Text.isWord_eq_false_of_isBlank hc, hdot]

theorem startsHere_fresh {a y : Text} (ha : Fresh a) : Declaration.startsHere ⟨a.reverse, y⟩ = true :=
  Declaration.startsHere_iff.mpr (ha.stopsAt blank_starts)

theorem startsHere_stands {a a' x x' y y' : Text} (ha' : Fresh a') (h : Alike x x')
    (hs : Declaration.startsHere ⟨(a ++ x).reverse, y⟩ = true) : Declaration.startsHere ⟨(a' ++ x').reverse, y'⟩ = true := by
  rw [Declaration.startsHere_iff, List.reverse_append] at hs ⊢
  exact Text.stopsAt_append (h.reverse.stopsAt blank_starts hs.of_append) (ha'.stopsAt blank_starts)

end TypeSplit.Source

namespace TypeSplit.Declaration

open TypeSplit.Source (Cursor Fresh)
open TypeSplit.Text (Alike StopsAt isBlank isWord)

/-! ## Type headers -/

structure TypeStart (keywords : List Text) (u : Text) : Prop where
  parts : ∃ run k gap name, u = run ++ (k ++ (gap ++ name)) ∧ ModifierRun typeModifiers run ∧ k ∈ keywords ∧
    Blanks gap ∧ Word name

variable {keywords : List Text}

theorem TypeStart.braceless (hk : Distinct keywords) {u : Text} (h : TypeStart keywords u) : Braceless u := by
  obtain ⟨run, k, gap, name, rfl, hrun, hmem, hgap, hname⟩ := h.parts
  have hrun : Braceless run := by
    refine .of_all (p := fun c => isWord c || isBlank c) (by decide) (by decide) fun c hc => ?_
    rcases hrun.mem typeModifiers_word hc with h | h <;> simp [h]
  exact hrun.append ((hk k hmem).1.braceless.append (hgap.braceless.append hname.braceless))

theorem TypeStart.beginsWord (hk : Distinct keywords) {u : Text} (h : TypeStart keywords u) : BeginsWord u := by
  obtain ⟨run, k, gap, name, rfl, hrun, hmem, -⟩ := h.parts
  exact hrun.beginsWord typeModifiers_word ((hk k hmem).1.beginsWord _)

theorem TypeStart.alike (hk : Distinct keywords) {u s y : Text} (h : TypeStart keywords u) (ha : Alike (u ++ s) y) :
    ∃ u' s', y = u' ++ s' ∧ TypeStart keywords u' ∧ Alike s s' := by
  obtain ⟨run, k, gap, name, rfl, hrun, hmem, hgap, hname⟩ := h.parts
  have hparts : run ++ (k ++ (gap ++ name)) ++ s = run ++ (k ++ (gap ++ (name ++ s))) := by simp
  rw [hparts] at ha
  obtain ⟨run', y', rfl, hrr, hy⟩ := ha.split_word (hk k hmem).1
  obtain ⟨gap', s', rfl, hgg, hs⟩ := hy.split_word hname
  exact ⟨run' ++ (k ++ (gap' ++ name)), s', by simp,
    ⟨run', k, gap', name, rfl, hrun.alike typeModifiers_word hrr, hmem, hgg.blanks hgap, hname⟩, hs⟩

/-- A type header is recognised where it starts up to its name, the name ends and a brace follows. -/
theorem typeHeader_iff (hk : Distinct keywords) {c : Cursor} :
    (typeHeader keywords c).isSome = true ↔ startsHere c = true ∧
      ∃ u s, c.ahead = u ++ s ∧ TypeStart keywords u ∧ StopsAt isWord s ∧ '{' ∈ s := by
  constructor
  · intro h
    obtain ⟨⟨⟨k, name⟩, n⟩, hr⟩ := Option.isSome_iff_exists.mp h
    obtain ⟨hs, hd, rest, -, -, hahead, -⟩ := typeHeader_reads hr
    refine ⟨hs, hd.run ++ (hd.keyword ++ (hd.blanks ++ hd.name)), hd.tail ++ '{' :: rest, ?_,
      ⟨_, _, _, _, rfl, hd.isRun, hd.keyword_mem, hd.isBlanks, hd.isWord_name⟩,
      Text.stopsAt_append hd.name_ends (by simp; decide), by simp⟩
    rw [hahead, Header.text]
    simp
  · intro hsplit
    obtain ⟨hs, u, s, hahead, ⟨run, k, gap, name, hu, hrun, hmem, hgap, hname⟩, hstop, hopen⟩ := hsplit
    obtain ⟨tail, rest, rfl, hfree⟩ := List.eq_append_cons_of_mem hopen
    let hd : Header keywords := ⟨run, k, gap, name, tail, hrun, hmem, hgap, hname, hstop.of_append, hfree⟩
    have hahead : c.ahead = hd.text ++ '{' :: rest := by simp [hahead, hu, hd, Header.text]
    rw [typeHeader_of_header hk hd hs hahead]
    rfl

/-- A type header that begins inside a part in one layout begins there in every other one, if a brace follows. -/
theorem typeHeader_moves (hk : Distinct keywords) {a a' x x' y y' z z' : Text} (ha' : Fresh a') (hx : Alike x x')
    (hy : Alike (y ++ ['}']) y') (hopen : '{' ∈ y' ++ z')
    (h : (typeHeader keywords ⟨(a ++ x).reverse, y ++ '}' :: z⟩).isSome = true) :
    (typeHeader keywords ⟨(a' ++ x').reverse, y' ++ z'⟩).isSome = true := by
  obtain ⟨hs, u, s, hahead, hu, hstop, -⟩ := (typeHeader_iff hk).mp h
  -- The header up to its name has no brace in it, so it ends before the part does.
  obtain ⟨w, rfl, rfl⟩ := Text.front_before (hu.braceless hk).no_close hahead
  rw [List.append_assoc] at hy
  obtain ⟨u', w', rfl, hu', hw⟩ := hu.alike hk hy
  have hne : w' ≠ [] := by
    intro hnil
    subst hnil
    exact absurd hw.symm.eq_nil (by simp)
  refine (typeHeader_iff hk).mpr ⟨Source.startsHere_stands ha' hx hs, u', w' ++ z', by simp, hu', ?_, ?_⟩
  · obtain ⟨c, w'', rfl⟩ := List.exists_cons_of_ne_nil hne
    have hstop : StopsAt isWord (w ++ ['}']) := by
      rw [show w ++ '}' :: z = w ++ ['}'] ++ z by simp] at hstop
      exact hstop.of_append
    simpa using hw.stopsAt (fun c => Text.isWord_eq_false_of_isBlank) hstop
  · rw [List.append_assoc] at hopen
    exact (List.mem_append.mp hopen).resolve_left (hu'.braceless hk).no_open

/-! ## Members -/

/-- The first brace behind a front without one. -/
theorem find?_front {t a front s : Text} {e : Nat} (hfront : '{' ∉ front) (ht : t.take e = a ++ (front ++ '{' :: s)) :
    Text.find? t '{' a.length e = some (a.length + front.length) := by
  have hlen := congrArg List.length ht
  simp only [List.length_take, List.length_append, List.length_cons] at hlen
  have hget : ∀ i < e, t[i]? = (a ++ (front ++ '{' :: s))[i]? := by
    intro i hi
    rw [← ht, List.getElem?_take, if_pos hi]
  refine Text.find?_eq_some_iff.mpr ⟨by omega, by omega, ?_, ?_⟩
  · rw [hget _ (by omega), ← List.append_assoc, ← List.length_append, List.getElem?_append_right (by omega)]
    simp
  · intro i h1 h2 hi
    rw [hget _ (by omega), List.getElem?_append_right h1, List.getElem?_append_left (by omega)] at hi
    exact hfront (List.mem_of_getElem? hi)

/-- The search for the end of a block begins behind its brace. -/
theorem matchBlock?_front {t a front s : Text} {e : Nat} (ht : t.take e = a ++ (front ++ '{' :: s)) :
    Source.matchBlock? .braces t (a.length + front.length : Nat) (some e) =
      Source.closeFrom? .braces (a.length + front.length + 1) 0 s := by
  have hstart : (((a.length + front.length : Nat) : Int) + 1).toNat = a.length + front.length + 1 := by omega
  have hlimit : Source.before (some (e : Int)) t = t.take e := rfl
  have hdrop : (t.take e).drop (a.length + front.length + 1) = s := by
    have hlen : a.length + front.length + 1 = (a ++ (front ++ ['{'])).length := by simp; omega
    have : a ++ (front ++ '{' :: s) = a ++ (front ++ ['{']) ++ s := by simp
    rw [ht, hlen, this, List.drop_left]
  rw [Source.matchBlock?, hstart, hlimit, hdrop]

def braced (front inner : Text) : Text := front ++ '{' :: (inner ++ ['}'])

theorem braced_append (front inner z : Text) : braced front inner ++ z = front ++ '{' :: (inner ++ '}' :: z) := by
  simp [braced]

theorem braced_ends {front inner x y : Text} (h : braced front inner = x ++ y) (hne : y ≠ []) : ∃ y', y = y' ++ ['}'] := by
  have hbraced : braced front inner = front ++ '{' :: inner ++ ['}'] := by simp [braced]
  have hlast := congrArg List.getLast? (hbraced.symm.trans h)
  rw [List.getLast?_concat, List.getLast?_append_of_ne_nil _ hne] at hlast
  exact List.getLast?_eq_some_iff.mp hlast.symm

/-- The text of a member: `front` stands before its brace and `inner` between its braces. -/
structure MemberText (kind : MemberKind) (name front inner : Text) : Prop where
  head : ∀ z, Head kind name front (inner ++ '}' :: z)
  balanced : Source.depthAfter 0 inner = some 0

namespace MemberText

variable {kind : MemberKind} {name front inner : Text}

theorem alike (h : MemberText kind name front inner) {m : Text} (ha : Alike (braced front inner) m) :
    ∃ front' inner', m = braced front' inner' ∧ Alike front front' ∧ MemberText kind name front' inner' := by
  obtain ⟨front', s, rfl, hfront, hs⟩ := ha.split (by decide)
  obtain ⟨inner', e, rfl, hinner, he⟩ := hs.split (by decide)
  cases he.eq_nil
  refine ⟨front', inner', rfl, hfront, ⟨fun z => (h.head []).alike hfront hinner, ?_⟩⟩
  rw [← hinner.depthAfter_eq]
  exact h.balanced

theorem beginsWord (h : MemberText kind name front inner) : BeginsWord (braced front inner) := by
  obtain ⟨run, type, gap, rest, rfl, hrun, htype, -⟩ := (h.head []).parts
  have hbegins : BeginsWord (type ++ (gap ++ (name ++ rest))) := by
    cases htype with
    | plain hw => exact hw.beginsWord _
    | array hw => exact ((hw.beginsWord _).append _)
    | nullable hw => exact ((hw.beginsWord _).append _)
  exact (hrun.beginsWord memberModifiers_word hbegins).append _

/-- At its start the member is recognised with its kind and its name, and with no other ones. -/
theorem accepts (h : MemberText kind name front inner) {w a z : Text} (ha : Fresh a)
    (hw : w = a ++ (braced front inner ++ z)) (hlt : '<' ∉ braced front inner ++ z) :
    (∃ n, kind.accepts (.at_ w a.length) = some (name, n)) ∧
      ∀ kind' name' n, MemberKind.accepts kind' (.at_ w a.length) = some (name', n) → kind' = kind ∧ name' = name := by
  rw [hw, Cursor.at_append]
  have hahead := braced_append front inner z
  refine ⟨accepts_of_head (Source.startsHere_fresh ha) hahead (h.head z), ?_⟩
  intro kind' name' n hacc
  exact eq_of_accepts hlt hahead (h.head z) hacc

/-- The brace of the member and the one that closes it. -/
theorem block (h : MemberText kind name front inner) {t a z : Text} {e : Nat}
    (ht : t.take e = a ++ (braced front inner ++ z)) :
    Text.find? t '{' a.length e = some (a.length + front.length) ∧
      Source.matchBlock? .braces t (a.length + front.length : Nat) (some e) =
        some (a.length + (braced front inner).length) := by
  rw [braced_append] at ht
  refine ⟨find?_front (h.head []).braceless.no_open ht, ?_⟩
  rw [matchBlock?_front ht]
  refine Source.closeFrom?_braces_iff.mpr ⟨inner, z, rfl, h.balanced, ?_⟩
  simp only [braced, List.length_append, List.length_cons, List.length_nil]
  omega

end MemberText

/-- A match that begins inside a part ends before the brace at the end of the part. -/
theorem MemberKind.ends {kind : MemberKind} {behind y z name : Text} {n : Nat} (hlt : '<' ∉ y ++ '}' :: z)
    (h : kind.accepts ⟨behind, y ++ '}' :: z⟩ = some (name, n)) : n ≤ y.length := by
  obtain ⟨-, front, inner, rest, hahead, rfl, -, hplain, hinner⟩ := MemberKind.reads h
  have hahead : y ++ '}' :: z = front ++ '{' :: inner ++ rest := by simpa using hahead
  have hfront := hplain fun hm => hlt (by rw [hahead]; simp [hm])
  have hclose : '}' ∉ front ++ '{' :: inner := by simp [hfront.no_close, hinner.no_close]
  obtain ⟨w, rfl, -⟩ := Text.front_before hclose hahead
  simp only [List.length_append, List.length_cons]
  omega

end TypeSplit.Declaration

namespace TypeSplit.Extraction

open TypeSplit.Declaration (MemberText braced)
open TypeSplit.Source (Block Cursor)

/-- Where no type arguments stand, a carved member is a member text between its places. -/
theorem carved_parts {withConstructors : Bool} {content : Content} {body : Body} {resume : Nat}
    (hblock : Block content.text body.opening body.stop)
    (hplain : '<' ∉ (content.text.take body.stop).drop (body.opening + 1)) {r : Carved}
    (hr : r ∈ carved (verdicts withConstructors content body resume
      (Declaration.memberSites true content.text body.opening body.stop))) :
    ∃ a front inner z, content.text.take body.stop = a ++ (braced front inner ++ z) ∧ r.site.offset = a.length ∧
      body.opening < a.length ∧ r.opening = a.length + front.length ∧
      r.close = a.length + (braced front inner).length ∧ MemberText r.site.kind r.site.name front inner := by
  obtain ⟨hmem, _, hj⟩ := mem_carved hr
  obtain ⟨-, -, -, -, hfind, hmatch, -⟩ := judge_eq_carved hj
  have hlen := hblock.le_length
  obtain ⟨p, n, hp, -, hpe, hacc, -⟩ := Declaration.memberSite_accepted (Nat.le_of_lt hblock.lt) (by omega) hmem
  obtain ⟨q, -, hq, hlo, -⟩ := carved_block hblock hr
  have hlo : body.opening < p := by omega
  have hsplit : (content.text.take body.stop).take p ++ (content.text.take body.stop).drop p = content.text.take body.stop :=
    List.take_append_drop _ _
  have hpre : ((content.text.take body.stop).take p).length = p := by
    rw [List.length_take, List.length_take]
    omega
  have hplain : '<' ∉ (content.text.take body.stop).drop p := by
    rw [show p = body.opening + 1 + (p - (body.opening + 1)) by omega, ← List.drop_drop]
    exact fun hm => hplain (List.mem_of_mem_drop hm)
  obtain ⟨-, front, s, hahead, hhead⟩ := Declaration.head_of_accepts hplain hacc
  rw [← Cursor.ahead_at, hahead] at hsplit
  -- The brace behind the head is the first one, and its block ends where the carving does.
  have hopening : r.opening = p + front.length := by
    have hbrace := Declaration.find?_front hhead.braceless.no_open hsplit.symm
    rw [hpre, ← hp] at hbrace
    exact Option.some.inj (hfind.symm.trans hbrace)
  have hsearch := Declaration.matchBlock?_front hsplit.symm
  rw [hpre, ← hopening, hmatch] at hsearch
  obtain ⟨inner, z, rfl, hbalanced, hclose⟩ := Source.closeFrom?_braces_iff.mp hsearch.symm
  refine ⟨(content.text.take body.stop).take p, front, inner, z, ?_, by rw [hpre, hp], by omega, by omega, ?_,
    ⟨fun z' => hhead.alike (.refl _) (.refl _), hbalanced⟩⟩
  · rw [Declaration.braced_append]
    exact hsplit.symm
  · simp only [hpre, braced, List.length_append, List.length_cons, List.length_nil]
    omega

end TypeSplit.Extraction
