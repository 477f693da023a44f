/-
  TypeSplit.Proofs.Overwriting — when the documents of a run overwrite one another.

  The name of a file tells the type and the part and nothing else, so two parts of one type never share a file,
  and parts of two types share one exactly if the types have the same name. A run is intact if every document is
  in its file in the end (`Intact`). A run under the usual file pattern is intact exactly if no two of the
  selected types that have members have the same name (`intact_iff`). Two types of one name are enough to lose a
  member (`a_namesake_overwrites`).
-/

import TypeSplit.NamePattern.Standard
import TypeSplit.Proofs.Carving
import TypeSplit.Proofs.FileName
import TypeSplit.Proofs.Grouping
import TypeSplit.Proofs.Writing

namespace TypeSplit.Splitting

theorem document_ok [NamePattern.Objects] {s : Style} {usings : List Text} {d : TypeDeclaration} {g : List Member}
    {n : Int} {x : Document} (h : document s usings d g n = .ok x) :
    x.typeName = d.name ∧ x.part = n ∧ s.fileName d.name n = .ok x.fileName ∧ render s usings d g = .ok x.lines := by
  simp only [document, bind_eq_ok, mapError_eq_ok, pure_eq_ok] at h
  obtain ⟨f, hf, lines, hr, rfl⟩ := h
  exact ⟨rfl, rfl, hf, hr⟩

theorem render_ok {s : Style} {usings lines : List Text} {d : TypeDeclaration} {g : List Member}
    (h : render s usings d g = .ok lines) :
    ∃ header, partialHeader d.header d.keyword = .ok header ∧ lines = partLines s.indentUnit usings d header g := by
  unfold render at h
  cases hp : partialHeader d.header d.keyword with
  | error e =>
    rw [hp] at h
    cases h
  | ok header =>
    rw [hp] at h
    cases h
    exact ⟨header, rfl, rfl⟩

theorem indent_infix_memberLines (unit : Text) {ts : List Text} {t : Text} (h : t ∈ ts) :
    indent unit t <:+: memberLines unit ts := by
  obtain ⟨front, back, rfl⟩ := List.append_of_mem h
  rw [memberLines, List.map_append, List.map_cons, Text.intercalate_append_cons]
  exact ⟨_, _, List.append_assoc ..⟩

theorem indent_infix_render {s : Style} {usings lines : List Text} {d : TypeDeclaration} {g : List Member}
    (h : render s usings d g = .ok lines) {m : Member} (hm : m ∈ g) : indent s.indentUnit m.fullText <:+: lines := by
  obtain ⟨header, -, rfl⟩ := render_ok h
  exact (indent_infix_memberLines _ (List.mem_map_of_mem hm)).trans ⟨_, _, rfl⟩

end TypeSplit.Splitting

namespace TypeSplit.Extraction

theorem types_word {keywords : List Text} {withProperties withConstructors : Bool} {scanner : Scanner}
    (hs : Scanner.ofKeywords keywords withProperties = .ok scanner) {content : Content} {d : TypeDeclaration}
    (hd : d ∈ (run scanner withConstructors content).types) : Declaration.Word d.name := by
  cases Scanner.ofKeywords_eq hs
  obtain ⟨outcome, houtcome, hdecl⟩ := List.mem_filterMap.mp hd
  obtain ⟨site, hsite, hresolve⟩ := List.mem_map.mp houtcome
  cases outcome with
  | skipped w => simp [Outcome.declaration?] at hdecl
  | resolved body vs =>
    simp only [Outcome.declaration?, Option.some.injEq] at hdecl
    obtain ⟨s, hs, -, hname, -⟩ := Declaration.mem_typeSites hsite
    obtain ⟨-, -, -, hacc, -⟩ := (Declaration.typeSites_scan keywords content.text).accepted hs
    obtain ⟨-, header, -, -, hheader, -⟩ := Declaration.typeHeader_reads hacc
    rw [← hdecl, declare, (resolve_eq_resolved hresolve).1, hname, ← hheader]
    exact header.isWord_name

end TypeSplit.Extraction

namespace TypeSplit.Run

open TypeSplit.Files (Store)
open TypeSplit.Splitting (Style partStem)

/-! ## The documents of a type -/

section

variable [NamePattern.Objects] {style : Style} {usings : List Text} {count : Option Int} {d : TypeDeclaration} {p : Parts}

theorem splitType_ok (h : splitType style usings count d = .ok p) :
    ∃ gs, Splitting.groups d.members count = .ok gs ∧
      List.Forall₂ (fun x doc => Splitting.document style usings d x.1 (x.2 : Nat) = .ok doc) (gs.zipIdx 1)
        p.documents := by
  simp only [splitType, bind_eq_ok, mapError_eq_ok, pure_eq_ok] at h
  obtain ⟨gs, hg, documents, hdocs, rfl⟩ := h
  exact ⟨gs, hg, (forall₂_of_mapM_ok hdocs).imp fun _ _ hx => mapError_eq_ok.mp hx⟩

/-- The names of the files of a type, without their extension, are numbered from one. -/
theorem splitType_stems (hp : style.filePattern = ({} : Style).filePattern) (h : splitType style usings count d = .ok p) :
    p.documents.map (·.fileName) =
      ((List.range' 1 p.documents.length).map (partStem d.name)).map (· ++ style.extension) := by
  obtain ⟨gs, -, hdocs⟩ := splitType_ok h
  have hnames : List.Forall₂ (fun x doc => doc.fileName = partStem d.name x.2 ++ style.extension) (gs.zipIdx 1)
      p.documents := hdocs.imp fun x doc hx => Splitting.fileName_usual hp (Splitting.document_ok hx).2.2.1
  have hmap : p.documents.map (·.fileName) = (gs.zipIdx 1).map fun x => partStem d.name x.2 ++ style.extension := by
    rw [← List.forall₂_eq_eq_eq, List.forall₂_map_left_iff, List.forall₂_map_right_iff]
    exact hnames.flip
  rw [hmap, ← hdocs.length_eq, List.length_zipIdx, ← List.zipIdx_map_snd 1 gs, List.map_map, List.map_map]
  rfl

theorem splitType_documents_eq_nil (h : splitType style usings count d = .ok p) :
    p.documents = [] ↔ d.members = [] := by
  obtain ⟨gs, hg, hdocs⟩ := splitType_ok h
  rw [← Splitting.groups_eq_nil_iff hg, ← List.length_eq_zero_iff, ← hdocs.length_eq, List.length_zipIdx,
    List.length_eq_zero_iff]

/-- Every member of a type is in one of its documents. -/
theorem splitType_present (h : splitType style usings count d = .ok p) {m : Member} (hm : m ∈ d.members) :
    ∃ x ∈ p.documents, x.typeName = d.name ∧ Splitting.indent style.indentUnit m.fullText <:+: x.lines := by
  obtain ⟨gs, hg, hdocs⟩ := splitType_ok h
  obtain ⟨g, hgs, hmg⟩ := Splitting.exists_group hg hm
  obtain ⟨i, hi⟩ := List.mem_iff_getElem?.mp hgs
  have hx : (g, 1 + i) ∈ gs.zipIdx 1 := List.mk_add_mem_zipIdx_iff_getElem?.mpr hi
  obtain ⟨x, hx, hdoc⟩ := exists_of_forall₂ hdocs hx
  obtain ⟨hname, -, -, hrender⟩ := Splitting.document_ok hdoc
  exact ⟨x, hx, hname, Splitting.indent_infix_render hrender hmg⟩

end

/-! ## The documents of a run -/

def stems (x : Text × Nat) : List Text := (List.range' 1 x.2).map (partStem x.1)

theorem stems_disjoint_iff {x y : Text × Nat} :
    List.Disjoint (stems x) (stems y) ↔ (0 < x.2 → 0 < y.2 → x.1 ≠ y.1) := by
  constructor
  · intro h hx hy hname
    refine h (List.mem_map.mpr ⟨1, ?_, rfl⟩) (List.mem_map.mpr ⟨1, ?_, congrArg (partStem · 1) hname.symm⟩) <;>
      · rw [List.mem_range'_1]; omega
  · intro h w hwx hwy
    obtain ⟨m, hm, rfl⟩ := List.mem_map.mp hwx
    obtain ⟨n, hn, heq⟩ := List.mem_map.mp hwy
    rw [List.mem_range'_1] at hm hn
    exact h (by omega) (by omega) (Splitting.partStem_inj heq).1.symm

/-- File names repeat exactly if the name of a type with files repeats. -/
theorem stems_nodup_iff (xs : List (Text × Nat)) :
    (xs.flatMap stems).Nodup ↔ ((xs.filter (0 < ·.2)).map (·.1)).Nodup := by
  have hself : ∀ x ∈ xs, (stems x).Nodup := fun x _ =>
    List.Nodup.map (fun _ _ h => (Splitting.partStem_inj h).2) List.nodup_range'
  rw [List.nodup_flatMap, and_iff_right hself, List.Nodup, List.pairwise_map, List.pairwise_filter]
  constructor
  · intro h
    exact h.imp fun hxy hx hy => stems_disjoint_iff.mp hxy (by simpa using hx) (by simpa using hy)
  · intro h
    exact h.imp fun hxy => stems_disjoint_iff.mpr fun hx hy => hxy (by simpa using hx) (by simpa using hy)

def fileCounts (selected : List TypeDeclaration) (parts : List Parts) : List (Text × Nat) :=
  List.zipWith (fun d p => (d.name, p.documents.length)) selected parts

theorem mem_fileCounts {selected : List TypeDeclaration} {parts : List Parts} {x : Text × Nat}
    (h : x ∈ fileCounts selected parts) : ∃ d ∈ selected, x.1 = d.name := by
  induction selected generalizing parts with
  | nil => simp [fileCounts] at h
  | cons d ds ih =>
    cases parts with
    | nil => simp [fileCounts] at h
    | cons p ps =>
      rcases List.mem_cons.mp h with rfl | h
      · exact ⟨d, List.mem_cons_self, rfl⟩
      · obtain ⟨d', hd', hx⟩ := ih h
        exact ⟨d', List.mem_cons_of_mem _ hd', hx⟩

section

variable [NamePattern.Objects] {style : Style} {usings : List Text} {count : Option Int} {selected : List TypeDeclaration}
  {parts : List Parts}

theorem fileNames_eq (hp : style.filePattern = ({} : Style).filePattern)
    (h : List.Forall₂ (fun d p => splitType style usings count d = .ok p) selected parts) :
    (parts.flatMap (·.documents)).map (·.fileName) =
      ((fileCounts selected parts).flatMap stems).map (· ++ style.extension) := by
  induction h with
  | nil => rfl
  | cons hd _ ih =>
    simp only [List.flatMap_cons, List.map_append, splitType_stems hp hd, ih, fileCounts, List.zipWith_cons_cons, stems]

theorem fileCounts_names (h : List.Forall₂ (fun d p => splitType style usings count d = .ok p) selected parts) :
    ((fileCounts selected parts).filter (0 < ·.2)).map (·.1) =
      (selected.filter fun d => !d.members.isEmpty).map (·.name) := by
  induction h with
  | nil => rfl
  | @cons d p _ _ hd _ ih =>
    have hiff := splitType_documents_eq_nil hd
    simp only [fileCounts, List.zipWith_cons_cons] at ih ⊢
    by_cases hm : d.members = []
    · simp only [hiff.mpr hm, hm, List.filter_cons, List.length_nil]
      exact ih
    · have hpos : 0 < p.documents.length := List.length_pos_iff.mpr fun hnil => hm (hiff.mp hnil)
      have hne : d.members.isEmpty = false := by simpa using hm
      simp only [List.filter_cons, hpos, hne, Bool.not_false, decide_true, if_true, List.map_cons, ih]

end

/-! ## Intact runs -/

theorem mem_of_selectTypes {types selected : List TypeDeclaration} {name : Option Text}
    (h : selectTypes types name = .ok selected) {d : TypeDeclaration} (hd : d ∈ selected) : d ∈ types := by
  simp only [selectTypes] at h
  split at h
  · cases h; exact hd
  · cases h; exact hd
  · split at h
    · rename_i d' hfind
      cases h
      rw [List.mem_singleton.mp hd]
      exact List.mem_of_find?_eq_some hfind
    · cases h

/-- Every document is in its file, no path is reported twice, and every member of a selected type is in a file. -/
structure Intact (unit : Text) (output : Path) (selected : List TypeDeclaration) (outcome : Outcome) (store : Store) :
    Prop where
  kept : ∀ d ∈ outcome.documents, store.get? (target output d) = some (Encoding.ofLines d.lines)
  once : outcome.summary.written.Nodup
  present : ∀ d ∈ selected, ∀ m ∈ d.members, ∃ x ∈ outcome.documents, x.typeName = d.name ∧
    Splitting.indent unit m.fullText <:+: x.lines ∧ store.get? (target output x) = some (Encoding.ofLines x.lines)

theorem styleOf_ofSettings {s : Settings} {splitter : Splitter} (hs : Splitter.ofSettings s none = .ok splitter)
    (source : Path) :
    ∃ extension, splitter.styleOf s source = ⟨s.output.indentUnit, s.output.filePattern, extension⟩ := by
  simp only [Splitter.ofSettings, bind_eq_ok, pure_eq_ok] at hs
  obtain ⟨scanner, -, rfl⟩ := hs
  exact ⟨_, rfl⟩

section

variable [NamePattern.Objects] {s : Settings} {splitter : Splitter} {request : Request} {outcome : Outcome}
  {selected : List TypeDeclaration}

theorem Prepared.selected_word {style : Option Style} (hs : Splitter.ofSettings s style = .ok splitter)
    (P : Prepared splitter s request outcome) {d : TypeDeclaration} (hd : d ∈ P.selected) : Declaration.Word d.name := by
  simp only [Splitter.ofSettings, bind_eq_ok, pure_eq_ok] at hs
  obtain ⟨scanner, hscanner, rfl⟩ := hs
  have htypes := mem_of_selectTypes P.select hd
  rw [P.extraction_eq] at htypes
  exact Extraction.types_word hscanner htypes

/-- A path is reported twice exactly if two selected types with members have the same name. -/
theorem Prepared.written_nodup_iff (hp : s.output.filePattern = ({} : Style).filePattern)
    (hs : Splitter.ofSettings s none = .ok splitter) (P : Prepared splitter s request outcome) :
    outcome.summary.written.Nodup ↔ ((P.selected.filter fun d => !d.members.isEmpty).map (·.name)).Nodup := by
  obtain ⟨extension, hstyle⟩ := styleOf_ofSettings hs request.source
  have hpattern : (splitter.styleOf s request.source).filePattern = ({} : Style).filePattern := by
    rw [hstyle]
    exact hp
  let path (w : Text) : Text :=
    (request.output.join (.ofText (w ++ (splitter.styleOf s request.source).extension))).text
  have hwritten : outcome.summary.written = ((fileCounts P.selected P.parts).flatMap stems).map path := by
    have hnames := fileNames_eq hpattern P.split
    rw [P.written_eq, P.documents_eq]
    have := congrArg (List.map fun f => (request.output.join (.ofText f)).text) hnames
    rwa [List.map_map, List.map_map] at this
  have hstem : ∀ w ∈ (fileCounts P.selected P.parts).flatMap stems, '/' ∉ w ∧ 1 < w.length := by
    intro w hw
    obtain ⟨x, hx, hw⟩ := List.mem_flatMap.mp hw
    obtain ⟨n, -, rfl⟩ := List.mem_map.mp hw
    obtain ⟨d, hd, hname⟩ := mem_fileCounts hx
    have hword := P.selected_word hs hd
    rw [← hname] at hword
    exact ⟨Splitting.slash_not_mem_partStem hword n, Splitting.one_lt_length_partStem x.1 n⟩
  rw [hwritten, ← fileCounts_names P.split, ← stems_nodup_iff]
  refine ⟨List.Nodup.of_map _, List.Nodup.map_on fun w hw w' hw' heq => ?_⟩
  exact Path.join_text_inj (hstem w hw).1 (hstem w hw).2 (hstem w' hw').1 (hstem w' hw').2 heq

/-- A run is intact exactly if no two selected types with members have the same name. -/
theorem intact_iff (hp : s.output.filePattern = ({} : Style).filePattern)
    (hs : Splitter.ofSettings s none = .ok splitter) (hd : request.dryRun = false) {j j' : Journal}
    (h : Succeeds (run Journal.host splitter s request) j outcome j')
    (hselect : selectTypes outcome.extraction.types request.typeName = .ok selected) :
    Intact s.output.indentUnit request.output selected outcome j'.store ↔
      ((selected.filter fun d => !d.members.isEmpty).map (·.name)).Nodup := by
  obtain ⟨⟨P⟩, before, hstore⟩ := run_succeeds hd h
  obtain rfl : P.selected = selected := Except.ok.inj (P.select.symm.trans hselect)
  rw [← P.written_nodup_iff hp hs]
  refine ⟨Intact.once, fun honce => ?_⟩
  have htargets : (outcome.documents.map (target request.output)).Nodup := by
    rw [P.written_eq] at honce
    refine List.Nodup.of_map Path.text ?_
    rwa [List.map_map]
  have hkept : ∀ d ∈ outcome.documents, j'.store.get? (target request.output d) = some (Encoding.ofLines d.lines) :=
    fun d hd => hstore ▸ get?_writeAll htargets hd
  refine ⟨hkept, honce, fun d hd m hm => ?_⟩
  obtain ⟨p, hp, hsplit⟩ := exists_of_forall₂ P.split hd
  obtain ⟨x, hx, hname, hlines⟩ := splitType_present hsplit hm
  have hx : x ∈ outcome.documents := P.documents_eq ▸ List.mem_flatMap.mpr ⟨p, hp, hx⟩
  obtain ⟨extension, hstyle⟩ := styleOf_ofSettings hs request.source
  rw [hstyle] at hlines
  exact ⟨x, hx, hname, hlines, hkept x hx⟩

end

/-! ## Two sources -/

def oneSource (t : Text) : Journal := .start (Store.empty.put (.ofText "a.cs".toList) t none false)

theorem count_pos_none : ∀ n : Int, (none : Option Int) = some n → 1 ≤ n := by
  intro n h
  cases h

def plainRequest : Request := ⟨.ofText "a.cs".toList, .ofText "out".toList, none, none, false, count_pos_none⟩

def plainSplitter : Splitter := ⟨Extraction.defaultScanner, true, none⟩

/-- A run that can be evaluated: it succeeds with an outcome and a journal that pass a test. -/
theorem succeeds_of_test {t : Text} (test : Outcome → Journal → Bool)
    (h : (match Id.run ((run Journal.host ⟨⟨Declaration.typeSites Extraction.defaultKeywords,
        Declaration.memberSitesInOrder true⟩, true, none⟩ .default plainRequest).run.run (oneSource t)) with
      | (.ok outcome, j) => test outcome j
      | _ => false) = true) :
    ∃ outcome j, Succeeds (run Journal.host plainSplitter .default plainRequest) (oneSource t) outcome j ∧
      test outcome j = true := by
  rw [← Extraction.defaultScanner_eq] at h
  split at h
  · rename_i outcome j hrun
    exact ⟨outcome, j, hrun, h⟩
  · cases h

def twoTypes : Text :=
  "class A\n\x7b\n    public void M() { }\n    void N() { }\n\x7d\nclass B\n\x7b\n    void M() { }\n\x7d\n".toList

theorem two_types_intact :
    ∃ outcome j, Succeeds (run Journal.host plainSplitter .default plainRequest) (oneSource twoTypes) outcome j ∧
      outcome.documents.length = 3 ∧
      Intact Settings.default.output.indentUnit plainRequest.output outcome.extraction.types outcome j.store := by
  obtain ⟨outcome, j, hrun, htest⟩ := succeeds_of_test (t := twoTypes)
    (fun outcome _ => decide (outcome.documents.length = 3 ∧
      ((outcome.extraction.types.filter fun (d : TypeDeclaration) => !d.members.isEmpty).map TypeDeclaration.name).Nodup))
    (by decide +kernel)
  obtain ⟨hlength, hnames⟩ := of_decide_eq_true htest
  exact ⟨outcome, j, hrun, hlength, (intact_iff rfl rfl rfl hrun rfl).mpr hnames⟩

def namesakes : Text :=
  "class A\n\x7b\n    void M() { }\n\x7d\nclass A\n\x7b\n    void N() { }\n\x7d\n".toList

/-- The document of the second type stands where the document of the first was written: the file of the first
document holds other lines, its path is reported twice, and no written file has the member of the first type. -/
theorem a_namesake_overwrites :
    ∃ outcome j, Splitter.ofSettings .default none = .ok plainSplitter ∧ plainRequest.dryRun = false ∧
      Succeeds (run Journal.host plainSplitter .default plainRequest) (oneSource namesakes) outcome j ∧
      (∃ d ∈ outcome.documents, j.store.get? (target plainRequest.output d) ≠ some (Encoding.ofLines d.lines)) ∧
      ¬ outcome.summary.written.Nodup ∧
      ∃ d ∈ outcome.extraction.types, ∃ m ∈ d.members, ∀ p ∈ j.written,
        (j.store.get? p.1).any (Text.hasPart (Text.strip m.fullText)) = false := by
  obtain ⟨outcome, j, hrun, htest⟩ := succeeds_of_test (t := namesakes)
    (fun outcome j => decide
      ((∃ d ∈ outcome.documents, j.store.get? (target plainRequest.output d) ≠ some (Encoding.ofLines d.lines)) ∧
        ¬ outcome.summary.written.Nodup ∧
        ∃ d ∈ outcome.extraction.types, ∃ m ∈ d.members, ∀ p ∈ j.written,
          (j.store.get? p.1).any (Text.hasPart (Text.strip m.fullText)) = false)) (by decide +kernel)
  exact ⟨outcome, j, rfl, rfl, hrun, of_decide_eq_true htest⟩

end TypeSplit.Run
