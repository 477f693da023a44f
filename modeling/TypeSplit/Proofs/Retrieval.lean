/-
  TypeSplit.Proofs.Retrieval — lines that are written are read back.

  Writing puts a newline behind every line and turns the text into bytes. Reading passes over a byte order mark, turns the
  bytes into text, makes every line end a newline and cuts at newlines. Each of these undoes its counterpart, as long as the
  lines have no line ends of their own and the first one does not begin with the mark.
  - `withoutMark_encode`: only a text that begins with the mark loses bytes, also where the text is shorter than a mark.
  - `lines_ofLines`: empty lines are kept, also at the end, since the cut drops only what stands behind the last newline.
  - `read_modify`: a disk gives back the bytes that were written under a path.
  - `written_lines_are_read_back`: so a file system gives back the lines.
-/

import TypeSplit.CommandLine.Terminal
import TypeSplit.Proofs.Decoding
import TypeSplit.Proofs.Lines

namespace TypeSplit.Source

/-! ## Lines -/

theorem lines_line {l : Text} (hn : '\n' ∉ l) (hr : '\r' ∉ l) : lines (l ++ ['\n']) = [l] := by
  have hpieces : Text.splitOn '\n' l = [l] := by
    have := Text.splitOn_append (t := []) hn rfl
    rwa [List.append_nil] at this
  rw [lines, rawLines_newline, hpieces, List.map_singleton, dropReturn_of_not_mem hr]

/-- Lines without line ends are those of the text that they make. -/
theorem lines_ofLines {ls : List Text} (h : ∀ l ∈ ls, '\n' ∉ l ∧ '\r' ∉ l) : lines (Encoding.ofLines ls) = ls := by
  induction ls with
  | nil => rfl
  | cons l ls ih =>
    obtain ⟨⟨hn, hr⟩, hrest⟩ := List.forall_mem_cons.mp h
    have hline : EndsWithNewline (l ++ ['\n']) := .inr ⟨l, rfl⟩
    rw [Encoding.ofLines, List.flatMap_cons, lines_append hline, lines_line hn hr, ← Encoding.ofLines, ih hrest]
    rfl

end TypeSplit.Source

namespace TypeSplit.Encoding

/-! ## Bytes -/

/-- The mark is the bytes of one character. -/
theorem mark_eq : mark = Utf8.encodeChar '\uFEFF' := by decide

theorem head?_of_marked {t : Text} (h : mark <+: Utf8.encode t) : t.head? = some '\uFEFF' := by
  obtain ⟨rest, hrest⟩ := h
  obtain ⟨next, hnext⟩ := Utf8.decodeFrom_encodeChar '\uFEFF' rest 0
  rw [← mark_eq, hrest, Utf8.decodeFrom_encode] at hnext
  cases hdecode : Utf8.decodeFrom next rest with
  | error e =>
    rw [hdecode] at hnext
    cases hnext
  | ok t' =>
    rw [hdecode] at hnext
    rw [Except.ok.inj hnext]
    rfl

/-- A text is not written in fewer bytes than the mark has, if its first byte is that of the mark. -/
theorem marked_of_within {c : Char} {t : Text} (h : Utf8.encode (c :: t) <+: mark) : mark <+: Utf8.encode (c :: t) := by
  obtain ⟨b, front, lead, hchar, hlead, hlength, -⟩ := Utf8.tails_encodeChar c
  have hbytes : Utf8.encode (c :: t) = b :: (front ++ Utf8.encode t) := by
    rw [Utf8.encode_cons, hchar]
    rfl
  rw [hbytes] at h ⊢
  have hfirst : b = 0xEF := (List.cons_prefix_cons.mp h).1
  have htails : lead.tails = 2 := by
    have hb : b.toNat = 0xEF := by rw [hfirst]; rfl
    rcases Utf8.lead?_eq_some_iff.mp hlead with ⟨h, -⟩ | ⟨h, -⟩ | ⟨-, rfl⟩ | ⟨h, -⟩
    · omega
    · omega
    · rfl
    · omega
  have hlong : mark.length ≤ (b :: (front ++ Utf8.encode t)).length := by
    rw [List.length_cons, List.length_append, hlength, htails]
    show 3 ≤ _
    omega
  rw [h.eq_of_length_le hlong]

/-- A text that does not begin with the mark is read from all its bytes. -/
theorem withoutMark_encode {t : Text} (h : t.head? ≠ some '\uFEFF') : withoutMark (Utf8.encode t) = Utf8.encode t := by
  have hmark : ¬ mark <+: Utf8.encode t := fun hprefix => h (head?_of_marked hprefix)
  unfold withoutMark
  cases t with
  | nil => rfl
  | cons c t =>
    have hshort : ¬ Utf8.encode (c :: t) <+: mark := fun hprefix => hmark (marked_of_within hprefix)
    rw [if_neg (by rwa [List.isPrefixOf_iff_prefix]), if_neg (by rwa [List.isPrefixOf_iff_prefix])]

theorem unifyLineEnds_of_not_mem {t : Text} (h : '\r' ∉ t) : unifyLineEnds t = t := by
  fun_induction unifyLineEnds t with
  | case1 => rfl
  | case2 rest ih => simp at h
  | case3 c rest _ ih =>
    simp only [List.mem_cons, not_or] at h
    rw [if_neg (Ne.symm h.1), ih h.2]

theorem readText_encode {t : Text} (hmark : t.head? ≠ some '\uFEFF') (hr : '\r' ∉ t) :
    standard.readText (Utf8.encode t) = .ok t := by
  have hdecode : Utf8.decode (Utf8.encode t) = .ok t := Utf8.decode_eq_ok_iff.mpr rfl
  show (decodeUtf8 standard (withoutMark (Utf8.encode t))).map unifyLineEnds = .ok t
  rw [withoutMark_encode hmark, decodeUtf8, hdecode]
  show Except.ok (unifyLineEnds t) = .ok t
  rw [unifyLineEnds_of_not_mem hr]

/-- The first character of a text is that of its first line, or a newline. -/
theorem head?_ofLines {c : Char} (hc : c ≠ '\n') {ls : List Text} (h : ∀ l ∈ ls.head?, l.head? ≠ some c) :
    (ofLines ls).head? ≠ some c := by
  cases ls with
  | nil => simp [ofLines]
  | cons l ls =>
    have hfirst := h l rfl
    cases l with
    | nil => simpa [ofLines] using Ne.symm hc
    | cons x l => simpa [ofLines] using hfirst

theorem return_not_mem_ofLines {ls : List Text} (h : ∀ l ∈ ls, '\r' ∉ l) : '\r' ∉ ofLines ls := by
  intro hmem
  obtain ⟨l, hl, hr⟩ := List.mem_flatMap.mp hmem
  rcases List.mem_append.mp hr with hr | hr
  · exact h l hl hr
  · simp at hr

end TypeSplit.Encoding

namespace TypeSplit.Files.Disk

/-! ## Disks -/

variable {d d' : Disk} {p place : Path} {e : Entry}

theorem entry?_set_self (hnames : place.names ≠ []) : entry? (d.set place e) place = some e := by
  have hempty : place.names.isEmpty = false := by simpa using hnames
  unfold entry?
  simp [set, hempty]

theorem entry?_set_of_ne {q : Path} (h : q ≠ place) : entry? (d.set place e) q = d.entry? q := by
  have hbeq : (q == place) = false := by simpa using h
  unfold entry?
  split
  · rfl
  · simp only [set, List.lookup_cons, hbeq]
    exact lookup_filter_of_ne h

/-- A place that is no directory is not on the way to another one. -/
theorem step_set (hplace : d.entry? place ≠ some .directory) {q q' : Path} {name : Text} (h : d.step q name = .ok q') :
    (d.set place e).step q name = .ok q' := by
  by_cases hq : q = place
  · subst hq
    unfold step at h
    split at h
    · cases h
    · cases h
    · exact absurd ‹_› hplace
  · unfold step at h ⊢
    rwa [entry?_set_of_ne hq]

theorem foldlM_ok_of_imp {α β ε : Type} {f g : β → α → Except ε β} (h : ∀ b x b', f b x = .ok b' → g b x = .ok b')
    {xs : List α} {b r : β} (hf : xs.foldlM f b = .ok r) : xs.foldlM g b = .ok r := by
  induction xs generalizing b with
  | nil => exact hf
  | cons x xs ih =>
    rw [List.foldlM_cons, bind_eq_ok] at hf ⊢
    obtain ⟨b', hstep, hrest⟩ := hf
    exact ⟨b', h b x b' hstep, ih hrest⟩

/-- A path leads to the same place after a file was put there. -/
theorem locate_set (hplace : d.entry? place ≠ some .directory) (h : d.locate p = .ok place) :
    (d.set place e).locate p = .ok place := by
  unfold locate at h ⊢
  by_cases hzero : p.text.contains '\x00' = true
  · rw [if_pos hzero] at h
    cases h
  by_cases hlong : pathLimit < (Utf8.encode p.text).length
  · rw [if_neg hzero, if_pos hlong] at h
    cases h
  · rw [if_neg hzero, if_neg hlong] at h ⊢
    rw [mapError_eq_ok] at h ⊢
    exact foldlM_ok_of_imp (fun _ _ _ => step_set hplace) h

/-- What a path leads to when it can be written, and what the disk is then. -/
theorem modify_eq_ok {bytes : List UInt8} (h : d.modify p (fun _ => bytes) = .ok d') :
    ∃ place, d.locate p = .ok place ∧ d.entry? place ≠ some .directory ∧ d' = d.set place (.file bytes) := by
  unfold modify at h
  obtain ⟨place, hlocate, h⟩ := bind_eq_ok.mp h
  refine ⟨place, hlocate, ?_⟩
  cases hentry : d.entry? place with
  | none =>
    rw [hentry] at h
    exact ⟨by simp, (pure_eq_ok.mp h).symm⟩
  | some e =>
    rw [hentry] at h
    cases e with
    | directory => cases h
    | file old => exact ⟨by simp, (pure_eq_ok.mp h).symm⟩

/-- The bytes that were written under a path are read from it. -/
theorem read_modify {bytes : List UInt8} (h : d.modify p (fun _ => bytes) = .ok d') : d'.read p = .ok bytes := by
  obtain ⟨place, hlocate, hplace, rfl⟩ := modify_eq_ok h
  have hnames : place.names ≠ [] := by
    intro hnil
    apply hplace
    unfold entry?
    rw [hnil]
    rfl
  rw [read]
  refine bind_eq_ok.mpr ⟨place, locate_set hplace hlocate, ?_⟩
  rw [entry?_set_self hnames]
  rfl

end TypeSplit.Files.Disk

namespace TypeSplit.CommandLine.Terminal

/-! ## File systems -/

variable {s s' : Terminal} {p : Path} {ls : List Text}

theorem change_eq_ok {f : Files.Disk → Except Files.Error Files.Disk} (h : Id.run ((change f).run s) = (.ok (), s')) :
    f s.disk = .ok s'.disk := by
  have hrun : change f s = (.ok (), s') := h
  unfold change at hrun
  cases hf : f s.disk with
  | ok d =>
    rw [hf] at hrun
    cases hrun
    rfl
  | error e =>
    rw [hf] at hrun
    cases hrun

/-- The bytes under a path after lines were written to it. -/
theorem read_of_writeLines (h : Id.run (((volume.files .standard).writeLines p ls).run s) = (.ok (), s')) :
    s'.disk.read p = .ok (Utf8.encode (Encoding.ofLines ls)) := by
  apply Files.Disk.read_modify
  exact change_eq_ok (f := (·.modify p fun _ => Utf8.encode (Encoding.ofLines ls))) h

theorem readText_eq {bytes : List UInt8} {t : Text} (hread : s.disk.read p = .ok bytes)
    (htext : Encoding.standard.readText bytes = .ok t) :
    Id.run (((volume.files .standard).readText p).run s) = (.ok t, s) := by
  simp only [Files.Volume.files, volume, look, StateT.run_bind]
  simp [hread, htext, Except.mapError]

/-- Lines without line ends are read back from the bytes that are written for them, and from the file that they are written
to, wherever on a disk that is. The text of the file is each line with a newline behind it. -/
theorem written_lines_are_read_back {ls : List Text} (hends : ∀ l ∈ ls, '\n' ∉ l ∧ '\r' ∉ l)
    (hmark : ∀ l ∈ ls.head?, l.head? ≠ some '\uFEFF') :
    ∃ bytes, Encoding.standard.writeLines ls = .ok bytes ∧
      Encoding.standard.readText bytes = .ok (ls.flatMap (· ++ ['\n'])) ∧ Encoding.standard.readLines bytes = .ok ls ∧
      ∀ (s s' : Terminal) (p : Path), Id.run (((volume.files .standard).writeLines p ls).run s) = (.ok (), s') →
        s'.disk.read p = .ok bytes ∧
          Id.run (((volume.files .standard).readText p).run s') = (.ok (ls.flatMap (· ++ ['\n'])), s') := by
  have hreturn : '\r' ∉ Encoding.ofLines ls := Encoding.return_not_mem_ofLines fun l hl => (hends l hl).2
  have hfirst : (Encoding.ofLines ls).head? ≠ some '\uFEFF' := Encoding.head?_ofLines (by decide) hmark
  have htext := Encoding.readText_encode hfirst hreturn
  refine ⟨Utf8.encode (Encoding.ofLines ls), rfl, htext, ?_, ?_⟩
  · rw [Encoding.readLines, htext]
    exact congrArg Except.ok (Source.lines_ofLines hends)
  · intro s s' p hwrite
    have hread := read_of_writeLines hwrite
    exact ⟨hread, readText_eq hread htext⟩

/-- Empty lines at both ends, characters of one to four bytes, and the mark in front of another line than the first. -/
def looseLines : List Text := [[], "aé€😀".toList, ['\uFEFF'], []]

def bare : Terminal := ⟨.empty (.ofText "/w".toList), [], [], []⟩

theorem loose_lines_are_read_back :
    Encoding.standard.readLines
        [0x0A, 0x61, 0xC3, 0xA9, 0xE2, 0x82, 0xAC, 0xF0, 0x9F, 0x98, 0x80, 0x0A, 0xEF, 0xBB, 0xBF, 0x0A, 0x0A] =
        .ok looseLines ∧
      ∃ s', Id.run (((volume.files .standard).writeLines (.ofText "a.cs".toList) looseLines).run bare) = (.ok (), s') ∧
        Id.run (((volume.files .standard).readText (.ofText "a.cs".toList)).run s') =
          (.ok "\naé€😀\n\uFEFF\n\n".toList, s') := by
  obtain ⟨bytes, hbytes, -, hlines, hfile⟩ := @written_lines_are_read_back looseLines (by decide) (by decide)
  cases hbytes
  have hwrite : Id.run (((volume.files .standard).writeLines (.ofText "a.cs".toList) looseLines).run bare) =
      (.ok (), (Id.run (((volume.files .standard).writeLines (.ofText "a.cs".toList) looseLines).run bare)).2) := rfl
  exact ⟨hlines, _, hwrite, (hfile _ _ _ hwrite).2⟩

end TypeSplit.CommandLine.Terminal
