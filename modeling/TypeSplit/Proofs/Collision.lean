/-
  TypeSplit.Proofs.Collision — the files that names under the usual pattern lead to.

  A part has a name as long as its number can be written (`exists_fileName_iff`), and the name is the stem with the
  extension behind it (`eq_of_fileName`). The stem tells the type and the part. It has no slash, and neither has the
  suffix of a path, so that the file stands in the output directory itself (`join_fileName`). Each document of a run
  is named in this way (`Prepared.named`).
  - `files_collide_only_for_namesakes`: a name is that of one type and one part; files stay in their directory; and two
    documents of a run with one path belong to types of the same name.
-/

import TypeSplit.Proofs.Selection
import TypeSplit.Proofs.Trial

namespace TypeSplit.Path

/-! ## Names without slashes -/

theorem slash_not_mem_suffix (t : Text) : '/' ∉ (ofText t).suffix := by
  have hname : '/' ∉ (ofText t).name := by
    unfold name
    cases hlast : (ofText t).names.getLast? with
    | none => simp
    | some last =>
      obtain ⟨piece, others, ht⟩ := Text.splitOn_ne_nil '/' t
      have hmem : last ∈ Text.splitOn '/' t := List.mem_of_mem_filter (List.mem_of_getLast? hlast)
      exact (Text.splitOn_pieces ht).2 last (ht ▸ hmem)
  unfold suffix suffixOf
  dsimp only
  split
  · simp
  · intro h
    rcases List.mem_cons.mp h with h | h
    · exact absurd h (by decide)
    · exact hname (List.mem_reverse.mp ((List.takeWhile_prefix _).subset (List.mem_reverse.mp h)))

/-- A name of several characters without a slash is one name in a directory. -/
theorem join_ofText (directory : Path) {f : Text} (hslash : '/' ∉ f) (hlen : 1 < f.length) :
    directory.join (.ofText f) = ⟨directory.root, directory.names ++ [f]⟩ := by
  have h := ofText_append (t := []) hslash hlen rfl
  rw [List.append_nil] at h
  rw [h]
  rfl

end TypeSplit.Path

namespace TypeSplit.Splitting

open TypeSplit.Declaration (Word)

variable [NamePattern.Objects] {style : Style} {typeName f : Text} {part : Int}

/-! ## Names under the usual pattern -/

/-- A part has a name exactly if its number can be written. -/
theorem exists_fileName_iff (hstyle : style.filePattern = ({} : Style).filePattern) (hpart : 1 ≤ part) :
    (∃ f, style.fileName typeName part = .ok f) ↔ part.toNat < 10 ^ 4300 := by
  have hwritten := NamePattern.wholeText_ok_iff part
  rw [Nat.not_le, show part.natAbs = part.toNat by omega] at hwritten
  rw [← hwritten, Style.fileName, Style.name, hstyle, NamePattern.fill_usual, NamePattern.exists_map_ok_iff,
    NamePattern.exists_map_ok_iff]

theorem eq_of_fileName (hstyle : style.filePattern = ({} : Style).filePattern) (hpart : 1 ≤ part)
    (h : style.fileName typeName part = .ok f) : f = partStem typeName part.toNat ++ style.extension := by
  obtain ⟨n, rfl⟩ := Int.eq_ofNat_of_zero_le (show 0 ≤ part by omega)
  exact fileName_usual hstyle h

/-- A name is that of one type and one part. -/
theorem fileName_inj (hstyle : style.filePattern = ({} : Style).filePattern) {typeName' : Text} {part' : Int}
    (hpart : 1 ≤ part) (hpart' : 1 ≤ part') (h : style.fileName typeName part = .ok f)
    (h' : style.fileName typeName' part' = .ok f) : typeName = typeName' ∧ part = part' := by
  have hstems := (eq_of_fileName hstyle hpart h).symm.trans (eq_of_fileName hstyle hpart' h')
  obtain ⟨hname, hnumber⟩ := partStem_inj (List.append_cancel_right hstems)
  exact ⟨hname, by omega⟩

/-- The path of a file is the directory with one name more, and that name is no way back. -/
theorem join_fileName (hstyle : style.filePattern = ({} : Style).filePattern) {source : Text}
    (hext : style.extension = (Path.ofText source).suffix) (hword : Word typeName) (hpart : 1 ≤ part)
    (h : style.fileName typeName part = .ok f) (directory : Path) :
    directory.join (.ofText f) = ⟨directory.root, directory.names ++ [f]⟩ ∧ f ≠ ['.', '.'] := by
  have hf := eq_of_fileName hstyle hpart h
  have hslash : '/' ∉ f := by
    rw [hf, hext, List.mem_append, not_or]
    exact ⟨slash_not_mem_partStem hword _, Path.slash_not_mem_suffix source⟩
  have hlen : 1 < f.length := by
    have := one_lt_length_partStem typeName part.toNat
    rw [hf, List.length_append]
    omega
  refine ⟨Path.join_ofText directory hslash hlen, fun hdots => ?_⟩
  obtain ⟨c, rest, hname, hc⟩ := hword.cons
  have hhead : f.head? = some c := by
    rw [hf, partStem, hname]
    rfl
  rw [hdots] at hhead
  cases hhead
  exact absurd hc (by decide)

/-- Names under a style tell the type and the part, and lead to files in the directory that they are given for. -/
structure Tells (style : Style) : Prop where
  /-- A part has a name exactly if its number has no more digits than can be written. -/
  given : ∀ (typeName : Text) (part : Int), 1 ≤ part →
    ((∃ f, style.fileName typeName part = .ok f) ↔ part.toNat < 10 ^ 4300)
  once : ∀ (typeName typeName' : Text) (part part' : Int) (f : Text), 1 ≤ part → 1 ≤ part' →
    style.fileName typeName part = .ok f → style.fileName typeName' part' = .ok f → typeName = typeName' ∧ part = part'
  inside : ∀ source typeName : Text, style.extension = (Path.ofText source).suffix → Word typeName →
    ∀ (part : Int) (f : Text), 1 ≤ part → style.fileName typeName part = .ok f → ∀ output : Path,
      (output.join (.ofText f)).parent = output ∧ (output.join (.ofText f)).name = f ∧ f ≠ ['.', '.']

theorem tells_usual (hstyle : style.filePattern = ({} : Style).filePattern) : Tells style where
  given _ _ hpart := exists_fileName_iff hstyle hpart
  once _ _ _ _ _ hpart hpart' h h' := fileName_inj hstyle hpart hpart' h h'
  inside source typeName hext hword part f hpart h output := by
    obtain ⟨hjoin, hdots⟩ := join_fileName hstyle hext hword hpart h output
    rw [hjoin]
    exact ⟨by simp [Path.parent], by simp [Path.name], hdots⟩

end TypeSplit.Splitting

namespace TypeSplit.Run

open TypeSplit.Declaration (Word)
open TypeSplit.Splitting (Document Style Tells)

/-! ## The documents of a run -/

section

variable [NamePattern.Objects] {s : Settings} {override : Option Style} {splitter : Splitter} {request : Request}
  {outcome : Outcome}

/-- A document is named for its type and its part, and its type has a word for a name. -/
theorem Prepared.named (hs : Splitter.ofSettings s override = .ok splitter) (P : Prepared splitter s request outcome)
    {x : Document} (hx : x ∈ outcome.documents) :
    Word x.typeName ∧ 1 ≤ x.part ∧ (splitter.styleOf s request.source).fileName x.typeName x.part = .ok x.fileName := by
  rw [P.documents_eq] at hx
  obtain ⟨p, hp, hx⟩ := List.mem_flatMap.mp hx
  obtain ⟨d, hd, hsplit⟩ := exists_of_forall₂ P.split.flip hp
  obtain ⟨gs, -, hdocs⟩ := splitType_ok hsplit
  obtain ⟨⟨g, n⟩, hn, hdoc⟩ := exists_of_forall₂ hdocs.flip hx
  obtain ⟨hname, hpart, hfile, -⟩ := Splitting.document_ok hdoc
  have hfirst : 1 ≤ n := (List.mem_zipIdx hn).1
  rw [hname, hpart]
  exact ⟨P.selected_word hs hd, by omega, hfile⟩

/-- Two documents with one path are parts of the same number of types of the same name. -/
theorem Prepared.namesakes (hpattern : (splitter.styleOf s request.source).filePattern = ({} : Style).filePattern)
    (hs : Splitter.ofSettings s override = .ok splitter) (P : Prepared splitter s request outcome) {x y : Document}
    (hx : x ∈ outcome.documents) (hy : y ∈ outcome.documents)
    (h : (target request.output x).text = (target request.output y).text) :
    x.typeName = y.typeName ∧ x.part = y.part := by
  obtain ⟨hxword, hxpart, hxname⟩ := P.named hs hx
  obtain ⟨hyword, hypart, hyname⟩ := P.named hs hy
  rw [target, target, Splitting.eq_of_fileName hpattern hxpart hxname,
    Splitting.eq_of_fileName hpattern hypart hyname] at h
  have hstems := Path.join_text_inj (Splitting.slash_not_mem_partStem hxword _)
    (Splitting.one_lt_length_partStem _ _) (Splitting.slash_not_mem_partStem hyword _)
    (Splitting.one_lt_length_partStem _ _) h
  obtain ⟨hname, hnumber⟩ := Splitting.partStem_inj hstems
  exact ⟨hname, by omega⟩

end

/-- The usual pattern tells types and parts, whatever the extension. So two documents of a run get one path only if their
types have the same name and they are the same part of it. -/
theorem files_collide_only_for_namesakes [NamePattern.Objects] :
    (∀ style : Style, style.filePattern = ({} : Style).filePattern → Tells style) ∧
      ∀ (σ : Type) (host : Host (StateM σ)) (s : Settings) (override : Option Style) (splitter : Splitter)
        (request : Request) (j : σ) (outcome : Outcome), Splitter.ofSettings s override = .ok splitter →
        (splitter.styleOf s request.source).filePattern = ({} : Style).filePattern →
        (perform (run host splitter s request) j).1 = .ok outcome → ∀ x ∈ outcome.documents, ∀ y ∈ outcome.documents,
          (target request.output x).text = (target request.output y).text → x.typeName = y.typeName ∧ x.part = y.part := by
  refine ⟨fun style hstyle => Splitting.tells_usual hstyle, ?_⟩
  intro σ host s override splitter request j outcome hs hpattern h x hx y hy hpath
  obtain ⟨P⟩ := prepared_of_run h
  exact P.namesakes hpattern hs hx hy hpath

/-- A type whose name looks like the stem of another type's file, and types whose names differ in the case of a letter. -/
theorem look_alikes_do_not_collide :
    ({} : Style).fileName "A_Part1".toList 2 = .ok "A_Part1_Part2.cs".toList ∧
      (∀ typeName part, 1 ≤ part → ({} : Style).fileName typeName part = .ok "A_Part1_Part2.cs".toList →
        "A_Part1".toList = typeName ∧ 2 = part) ∧
      ∃ outcome,
        (perform (run Journal.host plainSplitter .default plainRequest.dry) (oneSource nameTwins)).1 = .ok outcome ∧
        outcome.summary.types.map (fun d => d.groups.length) = [1, 2, 1] ∧
        ∀ x ∈ outcome.documents, ∀ y ∈ outcome.documents, x.typeName ≠ y.typeName →
          (target plainRequest.output x).text ≠ (target plainRequest.output y).text := by
  obtain ⟨hnames, hruns⟩ := files_collide_only_for_namesakes
  have hname : ({} : Style).fileName "A_Part1".toList 2 = .ok "A_Part1_Part2.cs".toList := rfl
  obtain ⟨outcome, hrun, -, hcounts⟩ := nameTwins_found
  refine ⟨hname, ?_, outcome, hrun, hcounts, ?_⟩
  · intro typeName part hpart h
    exact (hnames {} rfl).once _ _ _ _ _ (by decide) hpart hname h
  · intro x hx y hy hne hpath
    exact hne (hruns _ _ _ none _ _ _ _ rfl rfl hrun x hx y hy hpath).1

end TypeSplit.Run
