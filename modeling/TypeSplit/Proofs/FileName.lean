/-
  TypeSplit.Proofs.FileName — the file names of parts under the usual pattern.

  The usual pattern writes the name of the type, `_Part`, the number of the part in decimal and the extension.
  The digits at the end of a name without its extension are the number, so the type and the part can be
  read off the name: `partStem_inj`. The same holds of the path of the file in an output directory, because a
  type name has no slash: `join_text_inj`.
-/

import TypeSplit.Proofs.Grammar
import TypeSplit.Proofs.Lines
import TypeSplit.Run.Basic

namespace TypeSplit.NamePattern

open TypeSplit.Splitting (Style)

theorem segments_usual :
    segments ({} : Style).filePattern (({} : Style).filePattern.length + 1) =
      ([.literal [], .field ⟨"type".toList, none, []⟩, .literal "_Part".toList, .field ⟨"part".toList, none, []⟩,
        .literal [], .field ⟨"ext".toList, none, []⟩], none) := by decide

section

variable [Objects]

theorem lookup_type (v : Values) : lookup v "type".toList = .ok (.text v.type) := rfl
theorem lookup_part (v : Values) : lookup v "part".toList = .ok (.number v.part) := rfl
theorem lookup_ext (v : Values) : lookup v "ext".toList = .ok (.text v.ext) := rfl

theorem fill_usual (v : Values) :
    fill ({} : Style).filePattern v =
      (Format.wholeText v.part).map fun digits => Text.points (v.type ++ ("_Part".toList ++ (digits ++ v.ext))) := by
  rw [fill, fillDeep, segments_usual]
  simp only [List.mapM_cons, List.mapM_nil, lookup_type, lookup_part, lookup_ext, Value.formatted,
    List.contains_nil, Bool.false_eq_true, if_false, bind, Except.bind, pure, Except.pure]
  cases Format.wholeText v.part with
  | error e => rfl
  | ok digits => simp [Except.map, Text.points]

end

end TypeSplit.NamePattern

namespace TypeSplit.Text

theorem text_points (t : Text) : CodePoint.text t.points = t := by
  rw [CodePoint.text, points, List.map_map]
  exact List.map_id t

theorem decimal_inj {m n : Nat} (h : decimal m = decimal n) : m = n := by
  have := congrArg (fun digits => Nat.ofDigitChars 10 digits 0) h
  simpa [decimal] using this

theorem isDigit_decimal {n : Nat} {c : Char} (h : c ∈ decimal n) : c.isDigit = true :=
  Nat.isDigit_of_mem_toDigits (by decide) (by decide) h

end TypeSplit.Text

namespace TypeSplit.Splitting

/-! ## The name of a part -/

def partStem (typeName : Text) (part : Nat) : Text := typeName ++ ("_Part".toList ++ Text.decimal part)

theorem fileName_usual [NamePattern.Objects] {s : Style} (hs : s.filePattern = ({} : Style).filePattern)
    {typeName f : Text} {part : Nat} (h : s.fileName typeName part = .ok f) : f = partStem typeName part ++ s.extension := by
  rw [Style.fileName, Style.name, hs, NamePattern.fill_usual] at h
  simp only [NamePattern.Format.wholeText] at h
  split at h
  · cases h
  · simp only [Except.map, Except.ok.injEq, Text.text_points] at h
    simp [← h, partStem, Text.decimalInt]

/-- A longer name in front of the digits would end in a digit, and it ends in a letter. -/
theorem partStem_inj_of_append {name name' a : Text} {n n' : Nat}
    (hname : name' ++ "_Part".toList = name ++ "_Part".toList ++ a) (hpart : Text.decimal n = a ++ Text.decimal n') :
    name = name' ∧ n = n' := by
  have ha : a = [] := by
    by_contra hne
    have hlast : (name' ++ "_Part".toList).getLast? = some 't' := by simp
    rw [hname, List.getLast?_append, List.getLast?_eq_getLast_of_ne_nil hne] at hlast
    have hdigit : (a.getLast hne).isDigit = true :=
      Text.isDigit_decimal (hpart ▸ List.mem_append_left _ (List.getLast_mem hne))
    simp only [Option.some_or, Option.some.injEq] at hlast
    rw [hlast] at hdigit
    exact absurd hdigit (by decide)
  subst ha
  have hname : name' = name := by simpa using hname
  exact ⟨hname.symm, Text.decimal_inj hpart⟩

/-- The type and the part can be read off the name of a file. -/
theorem partStem_inj {name name' : Text} {n n' : Nat} (h : partStem name n = partStem name' n') :
    name = name' ∧ n = n' := by
  simp only [partStem, ← List.append_assoc] at h
  rcases List.append_eq_append_iff.mp h with ⟨a, hname, hpart⟩ | ⟨a, hname, hpart⟩
  · exact partStem_inj_of_append hname hpart
  · obtain ⟨h1, h2⟩ := partStem_inj_of_append hname hpart
    exact ⟨h1.symm, h2.symm⟩

theorem slash_not_mem_partStem {name : Text} (hname : Declaration.Word name) (n : Nat) : '/' ∉ partStem name n := by
  intro h
  simp only [partStem, List.mem_append] at h
  rcases h with h | h | h
  · exact absurd (hname.all _ h) (by decide)
  · exact absurd h (by decide)
  · exact absurd (Text.isDigit_decimal h) (by decide)

theorem one_lt_length_partStem (name : Text) (n : Nat) : 1 < (partStem name n).length := by
  rw [partStem, List.length_append, List.length_append, show "_Part".toList.length = 5 from rfl]
  omega

end TypeSplit.Splitting

namespace TypeSplit.Path

/-- The path of a name that begins with a text without slashes: that text begins the first name of the path. -/
theorem ofText_append {w t piece : Text} {others : List Text} (hw : '/' ∉ w) (hlen : 1 < w.length)
    (h : Text.splitOn '/' t = piece :: others) :
    ofText (w ++ t) = ⟨0, (w ++ piece) :: others.filter fun name => !(name.isEmpty || name == ['.'])⟩ := by
  match w, hlen with
  | x :: y :: w, _ =>
    have hx : x ≠ '/' := fun hx => hw (hx ▸ List.mem_cons_self)
    rw [ofText, Text.splitOn_append hw h]
    simp [rootOf, hx]

/-- Files with one extension in one directory have different paths if the names before it are different. -/
theorem join_text_inj {directory : Path} {w w' t : Text} (hw : '/' ∉ w) (hlen : 1 < w.length) (hw' : '/' ∉ w')
    (hlen' : 1 < w'.length) (h : (directory.join (.ofText (w ++ t))).text = (directory.join (.ofText (w' ++ t))).text) :
    w = w' := by
  obtain ⟨piece, others, ht⟩ := Text.splitOn_ne_nil '/' t
  rw [ofText_append hw hlen ht, ofText_append hw' hlen' ht] at h
  simpa [join, text, Text.join, Text.intercalate_append_cons] using h

end TypeSplit.Path
