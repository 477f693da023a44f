/-
  TypeSplit.Proofs.PartText — what an extraction finds in the text of a part.

  `PartText` describes such a text: a preamble that declares no type, a header, and between its braces members on lines
  of their own, with nothing but blanks around them. If no type is declared inside the members, the header is the only
  type site (`PartText.sites_eq`), its block holds the members (`PartText.block`), and the extraction carves them all,
  in their order and with their names and visibilities, and warns of nothing (`PartText.extracted`).
-/

import TypeSplit.Proofs.Rendering
import TypeSplit.Proofs.Standing

namespace TypeSplit.Splitting

open TypeSplit.Declaration (BeginsWord)
open TypeSplit.Source (Site)
open TypeSplit.Text (isWord)

variable {α : Type}

/-! ## Places of spread texts -/

theorem spread_append (bs bs' : List (Placed α)) : spread (bs ++ bs') = spread bs ++ spread bs' := by
  simp [spread]

theorem spread_cons (b : Placed α) (bs : List (Placed α)) : spread (b :: bs) = b.gap ++ (b.text ++ spread bs) := by
  simp [spread]

/-- A word that begins among placed texts begins inside one of them. -/
theorem spread_split {bs : List (Placed α)} {last u v : Text} (hlast : ∀ c ∈ last, isWord c = false) (hv : BeginsWord v)
    (h : spread bs ++ last = u ++ v) :
    ∃ bs₁ b bs₂ x y, bs = bs₁ ++ b :: bs₂ ∧ b.text = x ++ y ∧ y ≠ [] ∧ u = spread bs₁ ++ (b.gap ++ x) ∧
      v = y ++ (spread bs₂ ++ last) := by
  obtain ⟨c, v, rfl, hc⟩ := hv
  induction bs generalizing u with
  | nil =>
    have : c ∈ last := by
      rw [spread, List.flatMap_nil, List.nil_append] at h
      simp [h]
    rw [hlast c this] at hc
    cases hc
  | cons b bs ih =>
    have behind : ∀ w, u = b.gap ++ (b.text ++ w) → spread bs ++ last = w ++ c :: v →
        ∃ bs₁ b' bs₂ x y, b :: bs = bs₁ ++ b' :: bs₂ ∧ b'.text = x ++ y ∧ y ≠ [] ∧ u = spread bs₁ ++ (b'.gap ++ x) ∧
          c :: v = y ++ (spread bs₂ ++ last) := by
      intro w hu hw
      obtain ⟨bs₁, b', bs₂, x, y, rfl, htext, hne, rfl, hv⟩ := ih hw
      exact ⟨b :: bs₁, b', bs₂, x, y, rfl, htext, hne, by rw [hu, spread_cons]; simp, hv⟩
    have h : b.gap ++ b.text ++ (spread bs ++ last) = u ++ c :: v := by rw [← h, spread_cons]; simp
    rcases List.append_eq_append_iff.mp h with ⟨w, hu, hw⟩ | ⟨w, hu, hw⟩
    · exact behind w (by rw [hu]; simp) hw
    · cases w with
      | nil => exact behind [] (by simpa using hu.symm) (by simpa using hw.symm)
      | cons d w =>
        obtain ⟨rfl, rfl⟩ := List.cons.inj hw
        have hgap : c ∉ b.gap := by
          intro hm
          rw [Text.isWord_eq_false_of_isBlank (b.gap_blank c hm)] at hc
          cases hc
        obtain ⟨x, hx, htext⟩ := Text.front_before hgap hu.symm
        exact ⟨[], b, bs, x, c :: w, rfl, htext, by simp, by simpa [spread] using hx, by simp⟩

def places : Nat → List (Placed α) → List (Site (Placed α))
  | _, [] => []
  | n, b :: bs =>
    ⟨n + b.gap.length, n + b.gap.length + b.text.length, b⟩ :: places (n + b.gap.length + b.text.length) bs

theorem map_places (n : Nat) (bs : List (Placed α)) : (places n bs).map (·.value) = bs := by
  induction bs generalizing n with
  | nil => rfl
  | cons b bs ih => rw [places, List.map_cons, ih]

theorem mem_places {n : Nat} {bs : List (Placed α)} {s : Site (Placed α)} :
    s ∈ places n bs ↔ ∃ bs₁ bs₂, bs = bs₁ ++ s.value :: bs₂ ∧ s.start = n + (spread bs₁ ++ s.value.gap).length ∧
      s.stop = s.start + s.value.text.length := by
  induction bs generalizing n with
  | nil => simp [places]
  | cons b bs ih =>
    rw [places, List.mem_cons, ih]
    constructor
    · intro h
      rcases h with rfl | ⟨bs₁, bs₂, rfl, hstart, hstop⟩
      · exact ⟨[], bs, rfl, by simp [spread], rfl⟩
      · refine ⟨b :: bs₁, bs₂, rfl, ?_, hstop⟩
        rw [hstart, spread_cons]
        simp only [List.length_append]
        omega
    · intro hsplit
      obtain ⟨bs₁, bs₂, hbs, hstart, hstop⟩ := hsplit
      cases bs₁ with
      | nil =>
        obtain ⟨rfl, rfl⟩ := List.cons.inj hbs
        obtain ⟨start, stop, b⟩ := s
        simp only [spread, List.flatMap_nil, List.nil_append] at hstart hstop
        exact .inl (by rw [hstop, hstart])
      | cons b' bs₁ =>
        obtain ⟨rfl, rfl⟩ := List.cons.inj hbs
        refine .inr ⟨bs₁, bs₂, rfl, ?_, hstop⟩
        rw [hstart, spread_cons]
        simp only [List.length_append]
        omega

theorem places_ordered (n : Nat) (bs : List (Placed α)) : (places n bs).Pairwise fun a b => a.stop ≤ b.start := by
  induction bs generalizing n with
  | nil => exact .nil
  | cons b bs ih =>
    refine .cons (fun s hs => ?_) (ih _)
    obtain ⟨bs₁, bs₂, -, hstart, -⟩ := mem_places.mp hs
    rw [hstart]
    exact Nat.le_add_right _ _

theorem places_stop_le {n : Nat} {bs : List (Placed α)} {s s' : Site (Placed α)} (hs : s ∈ places n bs)
    (hs' : s' ∈ places n bs) (h : s.start < s'.start) : s.stop ≤ s'.start := by
  induction bs generalizing n with
  | nil => cases hs
  | cons b bs ih =>
    obtain ⟨hlater, -⟩ := List.pairwise_cons.mp (places_ordered n (b :: bs))
    rw [places] at hs hs'
    rcases List.mem_cons.mp hs with rfl | hs <;> rcases List.mem_cons.mp hs' with rfl | hs'
    · exact absurd h (Nat.lt_irrefl _)
    · exact hlater s' hs'
    · have := hlater s hs
      simp only at h this
      omega
    · exact ih hs hs'

end TypeSplit.Splitting

namespace TypeSplit.Extraction

open TypeSplit.Declaration (MemberSite)
open TypeSplit.Source (Site)

/-! ## Verdicts on sites that lie in given spans -/

variable {withConstructors : Bool} {content : Content} {body : Body} {resume : Nat} {xs : List MemberSite}

/-- Sites along spans that follow each other: every span begins with a site, and a site from `resume` on lies in one. -/
structure Along {β : Type} (xs : List MemberSite) (resume : Nat) (ps : List (Site β)) : Prop where
  sorted : xs.Pairwise fun a b => a.offset ≤ b.offset
  follow : ps.Pairwise fun a b => a.stop ≤ b.start
  nonempty : ∀ s ∈ ps, s.start < s.stop
  behind : ∀ s ∈ ps, resume ≤ s.start
  inside : ∀ x ∈ xs, x.offset < resume ∨ ∃ s ∈ ps, s.start ≤ x.offset ∧ x.offset < s.stop
  begins : ∀ s ∈ ps, ∃ x ∈ xs, x.offset = s.start

namespace Along

variable {β : Type} {x : MemberSite} {ps : List (Site β)}

/-- No span begins with a site that is covered. -/
theorem skip (h : Along (x :: xs) resume ps) (hx : x.offset < resume) : Along xs resume ps where
  sorted := (List.pairwise_cons.mp h.sorted).2
  follow := h.follow
  nonempty := h.nonempty
  behind := h.behind
  inside := fun y hy => h.inside y (List.mem_cons_of_mem _ hy)
  begins := by
    intro s hs
    obtain ⟨y, hy, hys⟩ := h.begins s hs
    rcases List.mem_cons.mp hy with rfl | hy
    · have := h.behind s hs
      omega
    · exact ⟨y, hy, hys⟩

/-- Behind the first span the sites go along the other spans. -/
theorem tail {s : Site β} (h : Along (x :: xs) resume (s :: ps)) (hxs : x.offset = s.start) : Along xs s.stop ps where
  sorted := (List.pairwise_cons.mp h.sorted).2
  follow := (List.pairwise_cons.mp h.follow).2
  nonempty := fun s' hs' => h.nonempty s' (List.mem_cons_of_mem _ hs')
  behind := (List.pairwise_cons.mp h.follow).1
  inside := by
    intro y hy
    have hresume := h.behind s List.mem_cons_self
    have hpos := h.nonempty s List.mem_cons_self
    rcases h.inside y (List.mem_cons_of_mem _ hy) with hlt | ⟨s', hs', h1, h2⟩
    · exact .inl (by omega)
    · rcases List.mem_cons.mp hs' with rfl | hs'
      · exact .inl h2
      · exact .inr ⟨s', hs', h1, h2⟩
  begins := by
    intro s' hs'
    have hpos := h.nonempty s List.mem_cons_self
    obtain ⟨y, hy, hys⟩ := h.begins s' (List.mem_cons_of_mem _ hs')
    rcases List.mem_cons.mp hy with rfl | hy
    · have := (List.pairwise_cons.mp h.follow).1 s' hs'
      omega
    · exact ⟨y, hy, hys⟩

/-- The first span begins with the first site that is not covered. -/
theorem first (h : Along (x :: xs) resume ps) (hx : ¬ x.offset < resume) :
    ∃ s ps', ps = s :: ps' ∧ x.offset = s.start ∧ Along xs s.stop ps' := by
  obtain ⟨s', hs', hlo, hhi⟩ := (h.inside x List.mem_cons_self).resolve_left hx
  cases ps with
  | nil => cases hs'
  | cons s ps =>
    have hle : x.offset ≤ s.start := by
      obtain ⟨y, hy, hys⟩ := h.begins s List.mem_cons_self
      rcases List.mem_cons.mp hy with rfl | hy
      · exact Int.le_of_eq hys
      · exact hys ▸ (List.pairwise_cons.mp h.sorted).1 y hy
    have hxs : x.offset = s.start := by
      have hpos := h.nonempty s List.mem_cons_self
      rcases List.mem_cons.mp hs' with rfl | hs'
      · omega
      · have := (List.pairwise_cons.mp h.follow).1 s' hs'
        omega
    exact ⟨s, ps, rfl, hxs, h.tail hxs⟩

end Along

/-- If a site with which a span begins is carved up to the end of the span, the spans are what is carved. -/
theorem carved_spans {β γ : Type} {f : Carved → γ} {g : β → γ} {ps : List (Site β)} (h : Along xs resume ps)
    (hjudge : ∀ s ∈ ps, ∀ x ∈ xs, x.offset = s.start → ∀ resume ≤ s.start,
      ∃ r, judge withConstructors content body resume x = .carved r ∧ r.close = s.stop ∧ f r = g s.value) :
    (carved (verdicts withConstructors content body resume xs)).map f = ps.map fun s => g s.value := by
  induction xs generalizing resume ps with
  | nil =>
    cases ps with
    | nil => rfl
    | cons s ps =>
      obtain ⟨x, hx, -⟩ := h.begins s List.mem_cons_self
      cases hx
  | cons x xs ih =>
    rw [carved_cons]
    by_cases hcov : x.offset < resume
    · have hj : judge withConstructors content body resume x = .covered := by simp [judge, hcov]
      rw [hj]
      exact ih (h.skip hcov) fun s hs y hy => hjudge s hs y (List.mem_cons_of_mem _ hy)
    · obtain ⟨s, ps, rfl, hxs, hrest⟩ := h.first hcov
      obtain ⟨r, hj, hclose, hf⟩ :=
        hjudge s List.mem_cons_self x List.mem_cons_self hxs resume (h.behind s List.mem_cons_self)
      have hih := ih hrest fun s' hs' y hy => hjudge s' (List.mem_cons_of_mem _ hs') y (List.mem_cons_of_mem _ hy)
      rw [hj]
      simp only [Verdict.carved?, Option.toList_some, Option.map_some, Option.getD_some, hclose, List.singleton_append,
        List.map_cons, hf, hih]

end TypeSplit.Extraction

namespace TypeSplit.Splitting

open TypeSplit.Declaration (BeginsWord Header MemberKind MemberText TypeSite braced memberSites typeHeader)
open TypeSplit.Extraction (Body Carved carved defaultKeywords defaultScanner distinct_defaultKeywords)
open TypeSplit.Source (Block Cursor Fresh Passed Site Stands depthAfter)
open TypeSplit.Text (hasToken isBlank isWord)

/-! ## The text of a part -/

/-- A placed text is the text of the member it comes from, in some layout. -/
def Placed.Holds (b : Placed Carved) : Prop :=
  ∃ front inner, b.text = braced front inner ∧ MemberText b.origin.site.kind b.origin.site.name front inner ∧
    b.origin.member.exposed = hasToken Declaration.Visibility.pub.keyword front

/-- A preamble without a type, a header, and members between two braces. -/
structure PartText where
  preamble : Text
  header : Header defaultKeywords
  members : List (Placed Carved)
  last : Text
  fresh : Fresh preamble
  quiet : ∀ rest q, q < preamble.length → typeHeader defaultKeywords (.at_ (preamble ++ rest) q) = none
  holds : ∀ b ∈ members, b.Holds
  plain : '<' ∉ spread members
  last_blank : ∀ c ∈ last, isBlank c = true
  last_line : '\n' ∈ last

namespace PartText

variable (p : PartText)

def lead : Text := p.preamble ++ p.header.text ++ ['{']

def inner : Text := spread p.members ++ p.last

def text : Text := p.lead ++ (p.inner ++ ['}', '\n'])

def opening : Nat := (p.preamble ++ p.header.text).length

def stop : Nat := p.lead.length + p.inner.length

theorem text_eq : p.text = p.preamble ++ (p.header.text ++ '{' :: (p.inner ++ ['}', '\n'])) := by simp [text, lead]

theorem length_lead : p.lead.length = p.opening + 1 := by simp [lead, opening, Nat.add_assoc]

theorem length_text : p.text.length = p.stop + 2 := by simp [text, stop]; omega

theorem take_stop : p.text.take p.stop = p.lead ++ p.inner := by
  rw [text, ← List.append_assoc, stop, ← List.length_append, List.take_left]

def upTo (bs : List (Placed Carved)) (b : Placed Carved) : Text := p.lead ++ (spread bs ++ b.gap)

variable {p} {bs₁ bs₂ : List (Placed Carved)} {b : Placed Carved}

theorem take_stop_eq (h : p.members = bs₁ ++ b :: bs₂) :
    p.text.take p.stop = p.upTo bs₁ b ++ (b.text ++ (spread bs₂ ++ p.last)) := by
  rw [take_stop, inner, h, spread_append, spread_cons, upTo]
  simp

theorem stands (h : p.members = bs₁ ++ b :: bs₂) :
    Stands p.text (p.upTo bs₁ b) b.text (spread bs₂ ++ (p.last ++ ['}', '\n'])) := by
  refine ⟨?_, ?_, ?_⟩
  · rw [text, inner, h, spread_append, spread_cons, upTo]
    simp
  · rw [upTo, ← List.append_assoc]
    exact Source.fresh_blank b.gap_blank b.gap_line _
  · cases bs₂ with
    | nil => exact Source.spent_blank p.last_blank p.last_line _
    | cons b' bs₂ =>
      rw [spread_cons, List.append_assoc]
      exact Source.spent_blank b'.gap_blank b'.gap_line _

theorem plain_behind (h : p.members = bs₁ ++ b :: bs₂) : '<' ∉ b.text ++ (spread bs₂ ++ p.last) := by
  have hlast : '<' ∉ p.last := fun hm => absurd (p.last_blank _ hm) (by decide)
  have hplain := p.plain
  rw [h, spread_append, spread_cons] at hplain
  simp only [List.mem_append, not_or] at hplain ⊢
  exact ⟨hplain.2.2.1, hplain.2.2.2, hlast⟩

/-! ## The block -/

theorem depthAfter_member (h : b.Holds) : depthAfter 0 b.text = some 0 := by
  obtain ⟨front, inner, htext, hmember, -⟩ := h
  have hinner := Source.depthAfter_add hmember.balanced 1
  rw [Nat.zero_add] at hinner
  have hopen : ∀ s, depthAfter 0 ('{' :: s) = depthAfter 1 s := fun s => by simp [depthAfter]
  rw [htext, braced, Source.depthAfter_append, Source.depthAfter_braceless (hmember.head []).braceless, Option.bind_some,
    hopen, Source.depthAfter_append, hinner, Option.bind_some]
  simp [depthAfter]

theorem depthAfter_spread {bs : List (Placed Carved)} (h : ∀ b ∈ bs, b.Holds) : depthAfter 0 (spread bs) = some 0 := by
  induction bs with
  | nil => rfl
  | cons b bs ih =>
    have hgap : Declaration.Braceless b.gap := .of_all (by decide) (by decide) b.gap_blank
    rw [spread_cons, Source.depthAfter_append, Source.depthAfter_braceless hgap, Option.bind_some, Source.depthAfter_append,
      depthAfter_member (h b List.mem_cons_self), Option.bind_some]
    exact ih fun b' hb' => h b' (List.mem_cons_of_mem _ hb')

theorem block (p : PartText) : Block p.text p.opening p.stop := by
  have hlast : Declaration.Braceless p.last := .of_all (by decide) (by decide) p.last_blank
  refine ⟨?_, ?_⟩
  · rw [text, lead, opening, List.append_assoc, List.getElem?_append_right (Nat.le_refl _)]
    simp
  · have hstart : ((p.opening : Int) + 1).toNat = p.lead.length := by rw [length_lead]; omega
    have hlimit : Source.before none p.text = p.text := rfl
    have hdrop : p.text.drop p.lead.length = p.inner ++ '}' :: ['\n'] := by rw [text, List.drop_left]
    rw [Source.matchBlock?, hstart, hlimit, hdrop]
    refine Source.closeFrom?_braces_iff.mpr ⟨p.inner, ['\n'], rfl, ?_, rfl⟩
    rw [inner, Source.depthAfter_append, depthAfter_spread p.holds, Option.bind_some, Source.depthAfter_braceless hlast]

/-! ## The type site -/

def Typeless (p : PartText) : Prop :=
  ∀ q, p.lead.length ≤ q → q ≤ p.text.length → Passed (typeHeader defaultKeywords) p.text q

/-- A word that begins behind the opening brace begins inside a member. -/
theorem located {z : Text} {q : Nat} (hz : ∀ c ∈ z, isWord c = false) (hq : p.lead.length ≤ q)
    (h : BeginsWord ((p.lead ++ (spread p.members ++ z)).drop q)) :
    ∃ bs₁ b bs₂ x y, p.members = bs₁ ++ b :: bs₂ ∧ b.text = x ++ y ∧ y ≠ [] ∧ q = (p.upTo bs₁ b ++ x).length := by
  rw [List.drop_append, List.drop_of_length_le hq, List.nil_append] at h
  obtain ⟨bs₁, b, bs₂, x, y, hbs, htext, hne, hu, hv⟩ :=
    spread_split hz h (List.take_append_drop (q - p.lead.length) (spread p.members ++ z)).symm
  refine ⟨bs₁, b, bs₂, x, y, hbs, htext, hne, ?_⟩
  have hlen := congrArg List.length hu
  have hlt := congrArg List.length hv
  have hy := List.length_pos_of_ne_nil hne
  simp only [upTo, List.length_take, List.length_drop, List.length_append] at hlen hlt ⊢
  omega

/-- A type can only be declared inside a member. -/
theorem typeless (h : ∀ bs₁ b bs₂ x y, p.members = bs₁ ++ b :: bs₂ → b.text = x ++ y → y ≠ [] →
      Passed (typeHeader defaultKeywords) p.text (p.upTo bs₁ b ++ x).length) : p.Typeless := by
  intro q h1 h2
  cases hacc : typeHeader defaultKeywords (.at_ p.text q) with
  | none => exact .inl hacc
  | some r =>
    obtain ⟨-, u, s, hahead, hu, -⟩ := (Declaration.typeHeader_iff distinct_defaultKeywords).mp (by rw [hacc]; rfl)
    have hbegins : BeginsWord (p.text.drop q) := by
      rw [Cursor.ahead_at] at hahead
      rw [hahead]
      exact (hu.beginsWord distinct_defaultKeywords).append s
    have hz : ∀ c ∈ p.last ++ ['}', '\n'], isWord c = false := by
      intro c hc
      rcases List.mem_append.mp hc with hc | hc
      · exact Text.isWord_eq_false_of_isBlank (p.last_blank c hc)
      · simp only [List.mem_cons, List.not_mem_nil, or_false] at hc
        rcases hc with rfl | rfl <;> decide
    rw [text, inner, List.append_assoc (spread p.members)] at hbegins
    obtain ⟨bs₁, b, bs₂, x, y, hbs, htext, hne, rfl⟩ := located hz h1 hbegins
    exact h bs₁ b bs₂ x y hbs htext hne

theorem header_accepted (p : PartText) :
    typeHeader defaultKeywords (.at_ p.text p.preamble.length) =
      some ((p.header.keyword, p.header.name), p.header.text.length + 1) := by
  rw [text_eq, Cursor.at_append]
  exact Declaration.typeHeader_of_header distinct_defaultKeywords p.header (Source.startsHere_fresh p.fresh) rfl

/-- The header is the only type site. -/
theorem sites_eq (h : p.Typeless) :
    Source.sites (typeHeader defaultKeywords) p.text 0 p.text.length =
      [⟨p.preamble.length, p.opening + 1, (p.header.keyword, p.header.name)⟩] := by
  have hend : p.preamble.length + (p.header.text.length + 1) = p.opening + 1 := by
    rw [opening, List.length_append]
    omega
  have hlen := p.length_text
  have hlead := p.length_lead
  rw [← hend]
  refine (Declaration.typeSites_scan defaultKeywords p.text).single (Nat.zero_le _) ?_ p.header_accepted ?_ ?_ ?_
  · rw [stop] at hlen
    omega
  · rw [text_eq, Cursor.at_append, Bool.eq_false_iff]
    intro hc
    rw [← List.append_nil p.preamble, Source.inLineComment_fresh p.fresh] at hc
    cases hc
  · intro q _ hq
    exact .inl (p.text_eq ▸ p.quiet _ q hq)
  · intro q h1 h2
    exact h q (by omega) h2

/-! ## The member sites -/

/-- A match that begins between the braces begins inside a member and ends there. -/
theorem match_inside {kind : MemberKind} {q n : Nat} {name : Text} (hq : p.opening < q)
    (h : kind.accepts (.at_ (p.text.take p.stop) q) = some (name, n)) :
    ∃ s ∈ places p.lead.length p.members, s.start ≤ q ∧ q < s.stop ∧ q + n ≤ s.stop := by
  obtain ⟨-, front, inner, rest, hahead, -, hfront, -⟩ := MemberKind.reads h
  have hlead := p.length_lead
  have hbegins : BeginsWord ((p.lead ++ (spread p.members ++ p.last)).drop q) := by
    rw [← PartText.inner, ← take_stop, ← Cursor.ahead_at, hahead]
    exact hfront.append _
  have hz : ∀ c ∈ p.last, isWord c = false := fun c hc => Text.isWord_eq_false_of_isBlank (p.last_blank c hc)
  obtain ⟨bs₁, b, bs₂, x, y, hbs, htext, hne, hstart⟩ := located hz (by omega) hbegins
  -- The match ends before the brace that closes the member.
  obtain ⟨front', inner', hbraced, -⟩ := p.holds b (by rw [hbs]; simp)
  obtain ⟨y', rfl⟩ := Declaration.braced_ends (hbraced.symm.trans htext) hne
  have htake : p.text.take p.stop = (p.upTo bs₁ b ++ x) ++ (y' ++ '}' :: (spread bs₂ ++ p.last)) := by
    rw [take_stop_eq hbs, htext]
    simp
  have hn : n ≤ y'.length := by
    rw [htake, hstart, Cursor.at_append] at h
    refine MemberKind.ends (fun hm => plain_behind hbs ?_) h
    rw [htext]
    simpa using Or.inr hm
  refine ⟨⟨(p.upTo bs₁ b).length, (p.upTo bs₁ b).length + b.text.length, b⟩, mem_places.mpr ⟨bs₁, bs₂, hbs, ?_, rfl⟩, ?_⟩
  · rw [upTo, List.length_append]
  · simp only [htext, hstart, List.length_append, List.length_singleton]
    omega

theorem place_eq {s : Site (Placed Carved)} (hs : s ∈ places p.lead.length p.members) :
    ∃ bs₁ bs₂, p.members = bs₁ ++ s.value :: bs₂ ∧ s.start = (p.upTo bs₁ s.value).length ∧
      s.stop = s.start + s.value.text.length := by
  obtain ⟨bs₁, bs₂, hbs, hstart, hstop⟩ := mem_places.mp hs
  rw [← List.length_append] at hstart
  exact ⟨bs₁, bs₂, hbs, hstart, hstop⟩

/-- Every member is a member site. -/
theorem site_of_place {s : Site (Placed Carved)} (hs : s ∈ places p.lead.length p.members) :
    ∃ x ∈ memberSites true p.text p.opening p.stop, x.offset = s.start := by
  obtain ⟨bs₁, bs₂, hbs, hstart, -⟩ := place_eq hs
  obtain ⟨front, inner, htext, hmember, -⟩ := p.holds s.value (by rw [hbs]; simp)
  have hblock := p.block
  have hle := Nat.le_of_lt hblock.lt
  have hlen : p.stop ≤ p.text.length := Nat.le_of_succ_le hblock.le_length
  have hfresh := (stands hbs).fresh
  have htake := take_stop_eq hbs
  have hplain := plain_behind hbs
  rw [htext] at htake hplain
  obtain ⟨⟨n, hacc⟩, -⟩ := hmember.accepts hfresh htake hplain
  have hcomment : (Cursor.at_ (p.text.take p.stop) (p.upTo bs₁ s.value).length).inLineComment = false := by
    rw [htake, Cursor.at_append, Bool.eq_false_iff]
    intro hc
    rw [← List.append_nil (p.upTo bs₁ s.value), Source.inLineComment_fresh hfresh] at hc
    cases hc
  have hscan := Declaration.memberSites_scan s.value.origin.site.kind hle hlen
  have hsite := hscan.found (p := (p.upTo bs₁ s.value).length) ?_ ?_ hacc hcomment ?_
  · obtain ⟨x, hx, hoffset⟩ := Declaration.exists_memberSite hsite
    exact ⟨x, hx, by rw [hoffset, hstart]⟩
  · have := p.length_lead
    simp only [upTo, List.length_append]
    omega
  · rw [htake, List.length_append]
    exact Nat.le_add_right _ _
  · -- A match that begins earlier lies inside an earlier member.
    intro x hx hlt
    obtain ⟨hge, hpos, hxle, hxacc, -⟩ := hscan.accepted hx
    have hopen : p.opening < x.start := by
      rcases Nat.lt_or_eq_of_le hge with hge | hge
      · exact hge
      · exact absurd (hge ▸ hblock.opens) (MemberKind.brace hxacc).1
    obtain ⟨s', hs', h1, h2, h3⟩ := match_inside hopen hxacc
    exact Nat.le_trans (by omega) (hstart ▸ places_stop_le hs' hs (by omega))

/-- A member site at the start of a member is carved: the member up to its end, with its name and visibility. -/
theorem judge_place {withConstructors : Bool} {body : Body} (hr : '\r' ∉ p.text) (hstop : body.stop = p.stop)
    (hnested : body.nested = []) (hname : ∀ b ∈ p.members, withConstructors = true ∨ b.origin.site.name ≠ body.owner.name)
    {s : Site (Placed Carved)} (hs : s ∈ places p.lead.length p.members) {x : Declaration.MemberSite}
    (hx : x ∈ memberSites true p.text p.opening p.stop) (hoffset : x.offset = s.start) {resume : Nat}
    (hresume : resume ≤ s.start) :
    ∃ r, Extraction.judge withConstructors (.ofText p.text) body resume x = .carved r ∧ r.close = s.stop ∧
      (r.member.name, r.member.exposed) = (s.value.origin.site.name, s.value.origin.member.exposed) := by
  obtain ⟨bs₁, bs₂, hbs, hstart, hend⟩ := place_eq hs
  have hmem : s.value ∈ p.members := by rw [hbs]; simp
  obtain ⟨front, inner, htext, hmember, hexposed⟩ := p.holds s.value hmem
  have hstands := stands hbs
  have htake := take_stop_eq hbs
  have hplain := plain_behind hbs
  rw [htext] at hstands htake hplain
  -- What is recognised there is the member itself.
  have hblock := p.block
  obtain ⟨q, n, hq, -, -, hacc, -⟩ :=
    Declaration.memberSite_accepted (Nat.le_of_lt hblock.lt) (Nat.le_of_succ_le hblock.le_length) hx
  have hqs : q = (p.upTo bs₁ s.value).length := by omega
  subst hqs
  obtain ⟨hkind, hxname⟩ := (hmember.accepts hstands.fresh htake hplain).2 _ _ _ hacc
  obtain ⟨offset, name, kind⟩ := x
  simp only at hq hkind hxname
  subst hq hkind hxname
  obtain ⟨hfind, hmatch⟩ := hmember.block htake
  refine ⟨_, Extraction.judge_carves ?_ ?_ (hname s.value hmem) (hstop ▸ hfind) (hstop ▸ hmatch), ?_, ?_⟩
  · rw [← hstart]
    exact Int.ofNat_le.mpr hresume
  · simp [Body.Encloses, hnested]
  · rw [hend, hstart, htext]
  · rw [Prod.mk.injEq, hexposed]
    exact ⟨rfl, (Extraction.memberAt_stands _ _ hr (hmember.head []).braceless.no_open hstands rfl rfl).1⟩

/-- The member sites lie in the members, and every member begins with one. -/
theorem along (p : PartText) :
    Extraction.Along (memberSites true p.text p.opening p.stop) p.opening (places p.lead.length p.members) where
  sorted := Declaration.memberSites_sorted true p.text p.opening p.stop
  follow := places_ordered p.lead.length p.members
  nonempty := by
    intro s hs
    obtain ⟨bs₁, bs₂, hbs, -, hend⟩ := mem_places.mp hs
    obtain ⟨front, inner, htext, -⟩ := p.holds s.value (by rw [hbs]; simp)
    simp only [htext, braced, List.length_append, List.length_cons] at hend
    omega
  behind := by
    intro s hs
    have hlead := p.length_lead
    obtain ⟨bs₁, -, -, hs, -⟩ := mem_places.mp hs
    omega
  inside := by
    intro x hx
    have hblock := p.block
    obtain ⟨q, n, hq, -, -, hacc, -⟩ :=
      Declaration.memberSite_accepted (Nat.le_of_lt hblock.lt) (Nat.le_of_succ_le hblock.le_length) hx
    obtain ⟨q', -, -, hq', hopen, -⟩ := Declaration.memberSite_block hblock hx
    obtain ⟨s, hs, h1, h2, -⟩ := match_inside (by omega) hacc
    exact .inr ⟨s, hs, by omega, by omega⟩
  begins := fun _ hs => site_of_place hs

/-- The members are what is carved, in their order. -/
theorem carved_eq {withConstructors : Bool} (body : Body) (hr : '\r' ∉ p.text) (hstop : body.stop = p.stop)
    (hnested : body.nested = []) (hname : ∀ b ∈ p.members, withConstructors = true ∨ b.origin.site.name ≠ body.owner.name) :
    (carved (Extraction.verdicts withConstructors (.ofText p.text) body p.opening
        (memberSites true p.text p.opening p.stop))).map (fun r => (r.member.name, r.member.exposed)) =
      p.members.map fun b => (b.origin.site.name, b.origin.member.exposed) := by
  conv => rhs; rw [← map_places p.lead.length p.members, List.map_map]
  refine Extraction.carved_spans (g := fun b => (b.origin.site.name, b.origin.member.exposed)) p.along
    fun s hs x hx hoffset resume hresume => judge_place hr hstop hnested hname hs hx hoffset hresume

/-- The one outcome of an extraction: the header with the block behind it, and no type inside. -/
theorem outcomes_eq (withConstructors : Bool) (htypes : p.Typeless) :
    ∃ site : TypeSite, site.name = p.header.name ∧ site.keyword = p.header.keyword ∧
      (Extraction.run defaultScanner withConstructors (.ofText p.text)).outcomes =
        [.resolved ⟨site, p.opening, p.stop, []⟩ (Extraction.verdicts withConstructors (.ofText p.text)
          ⟨site, p.opening, p.stop, []⟩ p.opening (memberSites true p.text p.opening p.stop))] := by
  obtain ⟨site, hsites, hoffset, hname, hkeyword⟩ : ∃ site : TypeSite,
      defaultScanner.typeSites p.text = [site] ∧ site.offset = p.preamble.length ∧ site.name = p.header.name ∧
        site.keyword = p.header.keyword := by
    have hscan : defaultScanner.typeSites p.text = Declaration.typeSites defaultKeywords p.text := rfl
    rw [hscan, Declaration.typeSites, sites_eq htypes]
    exact ⟨_, rfl, rfl, rfl, rfl⟩
  refine ⟨site, hname, hkeyword, ?_⟩
  have hfind : Text.find? p.text '{' site.offset p.text.length = some p.opening := by
    have hopen : ∀ k ∈ defaultKeywords, '{' ∉ k := by decide
    rw [hoffset, (Declaration.find?_typeHeader hopen p.header_accepted).2, opening, List.length_append]
    congr 1
  have hnested : Extraction.nestedSpans p.text [site] p.opening p.stop = [] := by
    have : ¬ ((p.opening : Int) < site.offset ∧ site.offset < (p.stop : Int)) := by
      rw [hoffset, opening, List.length_append]
      omega
    simp [Extraction.nestedSpans, this]
  have hmatch := p.block.closes
  simp only [Extraction.run, Extraction.Content.ofText, hsites, List.map_singleton, Extraction.resolve, hfind, hmatch,
    Nat.add_sub_cancel, hnested]
  rfl

/-- What an extraction finds: one type, with the name and the keyword of the header and the members of the part. -/
theorem extracted {withConstructors : Bool} (hr : '\r' ∉ p.text) (htypes : p.Typeless)
    (hname : ∀ b ∈ p.members, withConstructors = true ∨ b.origin.site.name ≠ p.header.name) :
    (Extraction.run defaultScanner withConstructors (.ofText p.text)).warnings = [] ∧
      ∃ d, (Extraction.run defaultScanner withConstructors (.ofText p.text)).types = [d] ∧ d.name = p.header.name ∧
        d.keyword = p.header.keyword ∧ d.members.map (fun m => (m.name, m.exposed)) =
          p.members.map fun b => (b.origin.site.name, b.origin.member.exposed) := by
  obtain ⟨site, hsite, hkeyword, houtcomes⟩ := outcomes_eq withConstructors htypes
  refine ⟨?_, _, by rw [Extraction.types, houtcomes]; rfl, hsite, hkeyword, ?_⟩
  · rw [Extraction.warnings, houtcomes, List.flatMap_singleton]
    refine Extraction.warnings_eq_nil fun x hx => ?_
    obtain ⟨q, b, c, hq, -, -, -, -, hfind, hmatch⟩ := Declaration.memberSite_block p.block hx
    exact ⟨b, c + 1, hq ▸ hfind, hmatch⟩
  · rw [← carved_eq ⟨site, p.opening, p.stop, []⟩ hr rfl rfl (hsite ▸ hname), Extraction.declare_members,
      List.map_map]
    rfl

end PartText

end TypeSplit.Splitting
