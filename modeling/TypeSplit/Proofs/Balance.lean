/-
  TypeSplit.Proofs.Balance — whether the body of a part ends with the part.

  A part opens a body of its own and puts the lines of its members into it. Whether its last line closes that body is a
  matter of braces alone, and indenting neither adds nor removes one (`bracesOf_memberLines`). A member brings the braces
  of its block, which are balanced, and those that stand between its site and its block. There is no opening brace among
  the latter, for the first one opens the block; but a closing one may be.
  - `depthAfter_bracesOf`: how many blocks are open after a text depends on its braces only.
  - `Spans.bracesOf_fullText`: the braces that a member brings.
  - `depthAfter_members`: members leave no block open, and close none of the part, exactly if each does so by itself.
  - `part_is_balanced_iff`: the body of a part is closed by its last line exactly if no member of it has a closing brace
    before its block.
  - `a_comparison_unbalances`: a member whose site is a comparison in the block before it.
-/

import TypeSplit.Proofs.Excerpt
import TypeSplit.Proofs.Overwriting
import TypeSplit.Proofs.PartialMark

namespace TypeSplit.Text

theorem join_append {xs : List Text} (hxs : xs ≠ []) (ys : List Text) :
    join ['\n'] (xs ++ ys) = join ['\n'] xs ++ ys.flatMap ('\n' :: ·) := by
  obtain ⟨x, xs, rfl⟩ := List.exists_cons_of_ne_nil hxs
  rw [join, join, List.cons_append, intercalate_cons, intercalate_cons, List.flatMap_append,
    List.append_assoc]
  rfl

end TypeSplit.Text

namespace TypeSplit.Source

open TypeSplit.Declaration (Braceless)

/-! ## Braces -/

def bracesOf (t : Text) : Text := t.filter fun c => c == '{' || c == '}'

theorem bracesOf_append (a b : Text) : bracesOf (a ++ b) = bracesOf a ++ bracesOf b := List.filter_append ..

theorem bracesOf_braceless {t : Text} (h : Braceless t) : bracesOf t = [] := by
  refine List.filter_eq_nil_iff.mpr ?_
  intro c hc hbrace
  rcases Bool.or_eq_true_iff.mp hbrace with hopen | hclose
  · exact h.no_open (eq_of_beq hopen ▸ hc)
  · exact h.no_close (eq_of_beq hclose ▸ hc)

theorem depthAfter_bracesOf (n : Nat) (t : Text) : depthAfter n (bracesOf t) = depthAfter n t := by
  induction t generalizing n with
  | nil => rfl
  | cons c t ih =>
    have hcons : bracesOf (c :: t) = bracesOf [c] ++ bracesOf t := bracesOf_append [c] t
    have hdepth : depthAfter n (c :: t) = (depthAfter n [c]).bind (depthAfter · t) := depthAfter_append n [c] t
    rw [hcons, hdepth, depthAfter_append]
    by_cases hopen : c = '{'
    · subst hopen
      exact ih (n + 1)
    · by_cases hclose : c = '}'
      · subst hclose
        cases n with
        | zero => rfl
        | succ n => exact ih n
      · have hc : Braceless [c] := ⟨by simpa using Ne.symm hopen, by simpa using Ne.symm hclose⟩
        rw [bracesOf_braceless hc, depthAfter_braceless hc]
        exact ih n

theorem bracesOf_dropWhile {p : Char → Bool} (hopen : p '{' = false) (hclose : p '}' = false) (t : Text) :
    bracesOf (t.dropWhile p) = bracesOf t := by
  have hcut := congrArg bracesOf (List.takeWhile_append_dropWhile (p := p) (l := t))
  rw [bracesOf_append, bracesOf_braceless (.of_all hopen hclose fun c hc => List.mem_takeWhile_imp hc)] at hcut
  exact hcut

theorem bracesOf_reverse (t : Text) : bracesOf t.reverse = (bracesOf t).reverse := List.filter_reverse ..

theorem bracesOf_lines (ls : List Text) : bracesOf (ls.flatMap ('\n' :: ·)) = ls.flatMap bracesOf := by
  rw [bracesOf, List.filter_flatMap]
  rfl

theorem bracesOf_join (ls : List Text) : bracesOf (Text.join ['\n'] ls) = ls.flatMap bracesOf := by
  cases ls with
  | nil => rfl
  | cons l ls =>
    rw [Text.join, Text.intercalate_cons, bracesOf_append, List.flatMap_cons]
    exact congrArg _ (bracesOf_lines ls)

theorem bracesOf_splitOn (t : Text) : (Text.splitOn '\n' t).flatMap bracesOf = bracesOf t := by
  rw [← bracesOf_join, Text.join_splitOn]

theorem bracesOf_dropReturn (l : Text) : bracesOf (dropReturn l) = bracesOf l := by
  unfold dropReturn
  split
  · rename_i hlast
    obtain ⟨l', rfl⟩ := List.getLast?_eq_some_iff.mp hlast
    rw [List.dropLast_concat, bracesOf_append]
    exact (List.append_nil _).symm
  · rfl

theorem bracesOf_unreturned (t : Text) : bracesOf (unreturned t) = bracesOf t := by
  rw [unreturned, bracesOf_join, List.flatMap_map, ← bracesOf_splitOn t]
  apply List.flatMap_congr
  intro l _
  exact bracesOf_dropReturn l

/-! ## Blocks -/

theorem IsBlock.depthAfter {x : Text} (h : IsBlock x) : Source.depthAfter 0 x = some 0 := by
  obtain ⟨inner, rfl, hinner⟩ := h
  have hopen : Source.depthAfter 0 ('{' :: (inner ++ ['}'])) = Source.depthAfter 1 (inner ++ ['}']) := by
    simp [Source.depthAfter]
  rw [hopen, depthAfter_append, depthAfter_add hinner 1]
  simp [Source.depthAfter]

/-- A text that only closes blocks closes one that is not open, if it closes any. -/
theorem depthAfter_closing {front : Text} (hopen : '{' ∉ front) (hclose : '}' ∈ front) : depthAfter 0 front = none := by
  induction front with
  | nil => cases hclose
  | cons c front ih =>
    have hc : c ≠ '{' := fun hc => hopen (hc ▸ List.mem_cons_self)
    by_cases hbrace : c = '}'
    · -- the first closing brace finds no block open
      subst hbrace
      rfl
    · have hplain : Declaration.Braceless [c] := ⟨by simpa using Ne.symm hc, by simpa using Ne.symm hbrace⟩
      have hdepth : depthAfter 0 (c :: front) = (depthAfter 0 [c]).bind (depthAfter · front) := depthAfter_append 0 [c] front
      rw [hdepth, depthAfter_braceless hplain]
      refine ih (fun hmem => hopen (List.mem_cons_of_mem _ hmem)) ?_
      rcases List.mem_cons.mp hclose with heq | hmem
      · exact absurd heq.symm hbrace
      · exact hmem

/-- A block that reaches to the end of a text. -/
theorem matchBlock?_end_iff {a s : Text} :
    matchBlock? .braces (a ++ '{' :: (s ++ ['}'])) a.length none = some (a ++ '{' :: (s ++ ['}'])).length ↔
      depthAfter 0 s = some 0 := by
  have hstart : ((a.length : Int) + 1).toNat = a.length + 1 := by omega
  have hdrop : (a ++ '{' :: (s ++ ['}'])).drop (a.length + 1) = s ++ ['}'] := by
    rw [List.drop_append]
    simp
  have hbefore : before none (a ++ '{' :: (s ++ ['}'])) = a ++ '{' :: (s ++ ['}']) := rfl
  rw [matchBlock?, hstart, hbefore, hdrop, closeFrom?_braces_iff]
  constructor
  · intro hclosed
    obtain ⟨s', rest, hs, hdepth, hlength⟩ := hclosed
    -- the closing brace is the last character, so nothing is left behind it
    have hlen := congrArg List.length hs
    simp only [List.length_append, List.length_cons, List.length_nil] at hlen hlength
    have hrest : rest = [] := List.length_eq_zero_iff.mp (by omega)
    subst hrest
    rw [(List.append_inj' hs rfl).1]
    exact hdepth
  · intro hdepth
    refine ⟨s, [], rfl, hdepth, ?_⟩
    simp only [List.length_append, List.length_cons, List.length_nil]
    omega

end TypeSplit.Source

namespace TypeSplit.Splitting

open TypeSplit.Declaration (Braceless)
open TypeSplit.Source (bracesOf)

/-! ## Indentation -/

variable {unit : Text}

theorem bracesOf_indentLine (hunit : Braceless unit) (l : Text) : bracesOf (indentLine unit l) = bracesOf l := by
  unfold indentLine
  split
  · rename_i hempty
    obtain ⟨g, g', hparts, hg, hg'⟩ := Text.strip_parts l
    rw [List.isEmpty_iff.mp hempty, List.nil_append] at hparts
    have hblank : Braceless (g ++ g') := (Braceless.of_all (by decide) (by decide) hg).append
      (.of_all (by decide) (by decide) hg')
    rw [hparts, Source.bracesOf_braceless hblank]
    rfl
  · rw [Source.bracesOf_append, Source.bracesOf_braceless hunit, List.nil_append, Text.stripEndOf, Source.bracesOf_reverse,
      Source.bracesOf_dropWhile (by decide) (by decide), Source.bracesOf_reverse, List.reverse_reverse, Text.stripStart,
      Source.bracesOf_dropWhile (by decide) (by decide)]

theorem bracesOf_indent (hunit : Braceless unit) (f : Text) : (indent unit f).flatMap bracesOf = bracesOf f := by
  rw [indent, List.flatMap_map, ← Source.bracesOf_splitOn f]
  apply List.flatMap_congr
  intro l _
  exact bracesOf_indentLine hunit l

/-- The lines of members have the braces of the members. -/
theorem bracesOf_memberLines (hunit : Braceless unit) (fs : List Text) :
    (memberLines unit fs).flatMap bracesOf = fs.flatMap bracesOf := by
  cases fs with
  | nil => rfl
  | cons f fs =>
    rw [memberLines, List.map_cons, Text.intercalate_cons, List.flatMap_append, bracesOf_indent hunit, List.flatMap_cons,
      List.flatMap_map, List.flatMap_assoc]
    congr 1
    apply List.flatMap_congr
    intro f' _
    exact bracesOf_indent hunit f'

/-! ## Parts -/

def bodyOffset (usings : List Text) (d : TypeDeclaration) (header : Text) : Nat :=
  (Text.join ['\n'] (preamble usings d ++ [header])).length + 1

/-- The body of a part ends with the part exactly if its members leave no block open, and close none but their own. -/
theorem partLines_closed_iff (hunit : Braceless unit) (usings : List Text) (d : TypeDeclaration) (header : Text)
    (group : List Member) :
    Source.matchBlock? .braces (Text.join ['\n'] (partLines unit usings d header group)) (bodyOffset usings d header) none =
        some (Text.join ['\n'] (partLines unit usings d header group)).length ↔
      Source.depthAfter 0 (group.flatMap fun m => bracesOf m.fullText) = some 0 := by
  have hlines : partLines unit usings d header group =
      (preamble usings d ++ [header]) ++ (['{'] :: (memberLines unit (group.map (·.fullText)) ++ [['}']])) := by
    simp [partLines]
  have htext : Text.join ['\n'] (partLines unit usings d header group) =
      (Text.join ['\n'] (preamble usings d ++ [header]) ++ ['\n']) ++
        '{' :: ((memberLines unit (group.map (·.fullText))).flatMap ('\n' :: ·) ++ ['\n'] ++ ['}']) := by
    rw [hlines, Text.join_append (by simp), List.flatMap_cons, List.flatMap_append]
    simp
  have hoffset : bodyOffset usings d header =
      (Text.join ['\n'] (preamble usings d ++ [header]) ++ ['\n']).length := by
    rw [List.length_append]
    rfl
  rw [htext, hoffset, Source.matchBlock?_end_iff, ← Source.depthAfter_bracesOf, Source.bracesOf_append,
    Source.bracesOf_lines, bracesOf_memberLines hunit, List.flatMap_map, Source.bracesOf_braceless (by constructor <;> decide),
    List.append_nil]

end TypeSplit.Splitting

namespace TypeSplit.Extraction

open TypeSplit.Declaration (Braceless)
open TypeSplit.Source (bracesOf depthAfter lineBegin lineEnd)

/-! ## Members -/

/-- No brace stands on the lines of a member outside of it. -/
structure Clear (t : Text) (r : Carved) : Prop where
  before : Braceless ((t.take r.site.offset.toNat).drop (lineBegin t r.site.offset.toNat))
  behind : Braceless ((t.take (lineEnd t (r.close - 1))).drop r.close)

instance (t : Text) : Decidable (Braceless t) :=
  decidable_of_iff ('{' ∉ t ∧ '}' ∉ t) ⟨fun h => ⟨h.1, h.2⟩, fun h => ⟨h.no_open, h.no_close⟩⟩

instance (t : Text) (r : Carved) : Decidable (Clear t r) :=
  decidable_of_iff (Braceless _ ∧ Braceless _) ⟨fun h => ⟨h.1, h.2⟩, fun h => ⟨h.before, h.behind⟩⟩

/-- A closing brace stands between the site of a member and its block. -/
def ClosesEarly (t : Text) (r : Carved) : Prop := '}' ∈ (t.take r.opening).drop r.site.offset.toNat

instance (t : Text) (r : Carved) : Decidable (ClosesEarly t r) := inferInstanceAs (Decidable (_ ∈ _))

variable {t : Text} {r : Carved} {p e : Nat}

/-- A member brings the braces between its site and its block, and those of its block. -/
theorem Spans.bracesOf_fullText (h : Spans (.ofText t) r p e) (hclear : Clear t r) :
    bracesOf r.member.fullText = bracesOf ((t.take r.opening).drop p ++ (t.take r.close).drop r.opening) := by
  have hbefore := hclear.before
  have hbehind := hclear.behind
  rw [h.site, Int.toNat_natCast] at hbefore
  rw [h.close, Nat.add_sub_cancel, ← h.close] at hbehind
  rw [h.fullText_eq, Source.bracesOf_unreturned, h.cut, ← List.append_assoc ((t.take r.opening).drop p),
    Source.bracesOf_append, Source.bracesOf_append _ ((t.take (lineEnd t e)).drop r.close),
    Source.bracesOf_braceless hbefore, Source.bracesOf_braceless hbehind, List.nil_append, List.append_nil]

theorem Spans.depthAfter_member (h : Spans (.ofText t) r p e) (hclear : Clear t r) :
    depthAfter 0 (bracesOf r.member.fullText) = if ClosesEarly t r then none else some 0 := by
  have hsite : r.site.offset.toNat = p := by rw [h.site, Int.toNat_natCast]
  have hfirst : '{' ∉ (t.take r.opening).drop p := h.first
  rw [h.bracesOf_fullText hclear, Source.depthAfter_bracesOf, Source.depthAfter_append]
  split
  · rename_i hearly
    rw [ClosesEarly, hsite] at hearly
    rw [Source.depthAfter_closing hfirst hearly]
    rfl
  · rename_i hlate
    rw [ClosesEarly, hsite] at hlate
    rw [Source.depthAfter_braceless ⟨hfirst, hlate⟩]
    exact h.isBlock.depthAfter

/-- Members one after another: each leaves everything closed, up to the first that closes what is not open. -/
theorem depthAfter_members {group : List Carved}
    (h : ∀ r ∈ group, depthAfter 0 (bracesOf r.member.fullText) = if ClosesEarly t r then none else some 0) :
    depthAfter 0 (group.flatMap fun r => bracesOf r.member.fullText) = some 0 ↔ ∀ r ∈ group, ¬ ClosesEarly t r := by
  induction group with
  | nil => simp [depthAfter]
  | cons r group ih =>
    have hrest := ih fun x hx => h x (List.mem_cons_of_mem _ hx)
    rw [List.flatMap_cons, Source.depthAfter_append, h r List.mem_cons_self, List.forall_mem_cons]
    by_cases hearly : ClosesEarly t r
    · -- nothing that follows repairs it
      simp [hearly]
    · simp [hearly, hrest]

end TypeSplit.Extraction

namespace TypeSplit.Splitting

open TypeSplit.Declaration (Braceless)
open TypeSplit.Extraction

/-- The lines of a part whose body is opened by the line behind its header, and closed by its last line and not before. -/
def Balanced (usings : List Text) (d : TypeDeclaration) (lines : List Text) : Prop :=
  ∃ header inner, partialHeader d.header d.keyword = .ok header ∧
    lines = preamble usings d ++ [header, ['{']] ++ inner ++ [['}']] ∧
    Source.matchBlock? .braces (Text.join ['\n'] lines) (bodyOffset usings d header) none =
      some (Text.join ['\n'] lines).length

theorem balanced_render_iff {style : Style} (hunit : Braceless style.indentUnit) {usings : List Text} {d : TypeDeclaration}
    {group : List Member} {lines : List Text} (h : render style usings d group = .ok lines) :
    Balanced usings d lines ↔
      Source.depthAfter 0 (group.flatMap fun m => Source.bracesOf m.fullText) = some 0 := by
  obtain ⟨header, hheader, rfl⟩ := render_ok h
  rw [← partLines_closed_iff hunit usings d header group]
  constructor
  · intro hbalanced
    obtain ⟨header', _, hheader', -, hclosed⟩ := hbalanced
    rw [hheader] at hheader'
    cases hheader'
    exact hclosed
  · intro hclosed
    exact ⟨header, _, hheader, rfl, hclosed⟩

/-- A part is rendered for every group of the members of a type. Where no brace stands beside its members and in the
indentation, its last line closes its body, and no line before it, exactly if no member has a closing brace before its
block. -/
theorem part_is_balanced_iff [NamePattern.Objects] {scanner : Scanner} {withConstructors : Bool} {t : Text} {body : Body}
    {vs : List Verdict} {style : Style} {group : List Carved} (usings : List Text)
    (h : .resolved body vs ∈ (run scanner withConstructors (.ofText t)).outcomes) (hgroup : ∀ r ∈ group, r ∈ carved vs)
    (hclear : ∀ r ∈ group, Clear t r) (hunit : Braceless style.indentUnit) :
    let d := declare t (Declaration.namespaceOf t) body vs
    let rendered := render style usings d (group.map (·.member))
    ('\\' ∉ d.keyword → ∃ lines, rendered = .ok lines) ∧
      (∀ part doc, document style usings d (group.map (·.member)) part = .ok doc → rendered = .ok doc.lines) ∧
      ∀ lines, rendered = .ok lines → (Balanced usings d lines ↔ ∀ r ∈ group, ¬ ClosesEarly t r) := by
  intro d rendered
  refine ⟨?_, ?_, ?_⟩
  · intro hkeyword
    obtain ⟨line, hline⟩ := partialHeader_ok d.header hkeyword
    exact ⟨_, congrArg (Except.map _) hline⟩
  · intro part doc hdoc
    exact (document_ok hdoc).2.2.2
  · intro lines hlines
    rw [balanced_render_iff hunit hlines, List.flatMap_map]
    apply depthAfter_members
    intro r hr
    obtain ⟨p, e, hspans⟩ := carved_spanning h (hgroup r hr)
    exact hspans.depthAfter_member (hclear r hr)

def nestedBlocks : Text :=
  "class C\n\x7b\n    void A() \x7b if (a) \x7b \x7d \x7d\n\n    int B\n    \x7b\n        get { return n; }\n    \x7d\n\x7d\n".toList

def nestedBlocksResolved : { x : Body × List Verdict //
    (run defaultScanner true (.ofText nestedBlocks)).outcomes[0]? = some (.resolved x.1 x.2) ∧
      x.1.owner.keyword = "class".toList ∧ (carved x.2).map (·.member.name) = [['A'], ['B']] ∧
      (carved x.2).all (fun r => Clear nestedBlocks r ∧ ¬ ClosesEarly nestedBlocks r) = true } :=
  let body : Body := ⟨⟨0, ['C'], "class".toList, "class C".toList⟩, 8, 87, []⟩
  ⟨(body, verdictsIn nestedBlocks body), by
    rw [defaultScanner_eq]
    decide +kernel⟩

theorem nested_blocks_are_balanced :
    ∃ body vs, .resolved body vs ∈ (run defaultScanner true (.ofText nestedBlocks)).outcomes ∧
      (carved vs).map (·.member.name) = [['A'], ['B']] ∧ (∀ r ∈ carved vs, Clear nestedBlocks r) ∧
      Braceless ({} : Style).indentUnit ∧
      ∃ lines, render {} [] (declare nestedBlocks (Declaration.namespaceOf nestedBlocks) body vs)
          ((carved vs).map (·.member)) = .ok lines ∧
        Balanced [] (declare nestedBlocks (Declaration.namespaceOf nestedBlocks) body vs) lines := by
  obtain ⟨⟨body, vs⟩, hresolved, hkeyword, hnames, hall⟩ := nestedBlocksResolved
  have hmem := List.mem_of_getElem? hresolved
  have hmembers : ∀ r ∈ carved vs, Clear nestedBlocks r ∧ ¬ ClosesEarly nestedBlocks r := by
    intro r hr
    exact of_decide_eq_true (List.all_eq_true.mp hall r hr)
  have hclear : ∀ r ∈ carved vs, Clear nestedBlocks r := fun r hr => (hmembers r hr).1
  have hunit : Braceless ({} : Style).indentUnit := by decide
  obtain ⟨hrendered, -, hbalanced⟩ := part_is_balanced_iff [] hmem (fun r hr => hr) hclear hunit
  obtain ⟨lines, hlines⟩ := hrendered (by
    show '\\' ∉ body.owner.keyword
    rw [hkeyword]
    decide)
  exact ⟨body, vs, hmem, hnames, hclear, hunit, lines, hlines,
    (hbalanced lines hlines).mpr fun r hr => (hmembers r hr).2⟩

/-- A comparison in a block, which with the next `>` reads as type arguments of the member behind the block. -/
def comparedLines : Text :=
  "class C\n\x7b\n    ~C()\n    \x7b\n        n = a<b;\n    \x7d\n    List<int> M() { }\n\x7d\n".toList

def comparedPart : List Text :=
  ["partial class C".toList, ['{'], "    n = a<b;".toList, "    \x7d".toList, "    List<int> M() { }".toList, ['}']]

def comparedLinesResolved : { x : Body × List Verdict //
    (run defaultScanner true (.ofText comparedLines)).outcomes[0]? = some (.resolved x.1 x.2) ∧
      (carved x.2).all (fun r => Clear comparedLines r) = true ∧
      render {} [] (declare comparedLines (Declaration.namespaceOf comparedLines) x.1 x.2) ((carved x.2).map (·.member)) =
        .ok comparedPart ∧
      Source.depthAfter 0 (((carved x.2).map (·.member)).flatMap fun m => Source.bracesOf m.fullText) = none } :=
  let body : Body := ⟨⟨0, ['C'], "class".toList, "class C".toList⟩, 8, 70, []⟩
  ⟨(body, verdictsIn comparedLines body), by
    rw [defaultScanner_eq]
    decide +kernel⟩

/-- The member is carved from inside the block before it and brings the brace of that block, which closes the body of the
part before the member. -/
theorem a_comparison_unbalances :
    ∃ body vs, .resolved body vs ∈ (run defaultScanner true (.ofText comparedLines)).outcomes ∧
      (∀ r ∈ carved vs, Clear comparedLines r) ∧
      render {} [] (declare comparedLines (Declaration.namespaceOf comparedLines) body vs) ((carved vs).map (·.member)) =
        .ok comparedPart ∧
      Source.matchBlock? .braces (Text.join ['\n'] comparedPart) 16 none = some 36 ∧
      ¬ Balanced [] (declare comparedLines (Declaration.namespaceOf comparedLines) body vs) comparedPart := by
  obtain ⟨⟨body, vs⟩, hresolved, hall, hrender, hdepth⟩ := comparedLinesResolved
  refine ⟨body, vs, List.mem_of_getElem? hresolved, ?_, hrender, by decide, ?_⟩
  · intro r hr
    exact of_decide_eq_true (List.all_eq_true.mp hall r hr)
  · rw [balanced_render_iff (by decide) hrender, hdepth]
    exact nofun

end TypeSplit.Splitting
