/-
  TypeSplit.Proofs.Usable — settings that are accepted can be used.

  A section of the settings is read over another one, whose fields it keeps where the value says nothing. What the rest of
  the program relies on (`Output.Usable` and the like for the other sections) holds of the default sections, and reading a
  section over a usable one gives a usable one.
  - `accepted_iff`: settings are accepted exactly if no entry is refused or unreadable.
  - `accepted_settings_are_usable`: then all sections are usable, a splitter can be made of them, and whatever number of
    files a request asks for, the members of a type can be dealt into groups.
-/

import TypeSplit.Proofs.Grouping
import TypeSplit.Proofs.Refusal
import TypeSplit.Run.Basic

namespace TypeSplit.Settings

open TypeSplit.NamePattern (fill)
open TypeSplit.Yaml (Value)

/-! ## What is relied on -/

structure Output.Usable [NamePattern.Objects] (o : Output) : Prop where
  indent : 0 ≤ o.indentSize
  /-- The pattern gives a name for the values that it is tried with. -/
  named : ∃ name, fill o.filePattern trial = .ok name
  part : "\x7bpart\x7d".toList <:+: o.filePattern

structure Input.Usable (i : Input) : Prop where
  present : i.supportedExtensions ≠ []
  dotted : ∀ x ∈ i.supportedExtensions, x.head? = some '.'

structure Split.Usable (s : Split) : Prop where
  mode : s.mode.name = "visibility".toList ∨ s.mode.name = "round_robin".toList
  count : ∀ n, s.count = some n → 1 ≤ n
  /-- Members can be dealt out in turn only to a number of groups. -/
  inTurn : s.mode = .roundRobin → s.count ≠ none

def Parsing.Usable (p : Parsing) : Prop := p.typeKeywords ≠ []

structure Usable [NamePattern.Objects] (s : Settings) : Prop where
  output : s.output.Usable
  input : s.input.Usable
  split : s.split.Usable
  parsing : s.parsing.Usable

/-! ## Reading over a usable section -/

theorem le_getD {x : Option Int} {b d : Int} (hd : b ≤ d) (hx : ¬ x.any (· < b) = true) : b ≤ x.getD d := by
  cases x with
  | none => exact hd
  | some n => simpa using hx

theorem readOutput_usable [NamePattern.Objects] {v : Value} {o o' : Output} (ho : o.Usable)
    (h : readOutput v o = .ok o') : o'.Usable := by
  unfold readOutput at h
  obtain ⟨directory, -, h⟩ := bind_eq_ok.mp h
  dsimp only at h
  split at h
  · cases h
  · rename_i hindent
    obtain ⟨pattern, -, h⟩ := bind_eq_ok.mp h
    cases pattern with
    | none =>
      cases h
      exact ⟨le_getD ho.indent hindent, ho.named, ho.part⟩
    | some p =>
      obtain ⟨⟨⟩, hcheck, h⟩ := bind_eq_ok.mp h
      obtain ⟨hnamed, hpart⟩ := checkPattern_eq_ok hcheck
      cases h
      exact ⟨le_getD ho.indent hindent, hnamed, hpart⟩

theorem head?_extension (t : Text) : (extension t).head? = some '.' := by
  unfold extension
  dsimp only
  split
  · rename_i hstart
    obtain ⟨rest, hrest⟩ := List.isPrefixOf_iff_prefix.mp hstart
    rw [← hrest]
    rfl
  · rfl

theorem readInput_usable {v : Value} {i i' : Input} (hi : i.Usable) (h : readInput v i = .ok i') : i'.Usable := by
  unfold readInput at h
  obtain ⟨extensions, -, h⟩ := bind_eq_ok.mp h
  obtain ⟨size, -, h⟩ := bind_eq_ok.mp h
  dsimp only at h
  split at h
  · cases h
  · cases h
    by_cases hnone : extensions = []
    · subst hnone
      exact ⟨hi.present, hi.dotted⟩
    · have hsome : ¬ extensions.isEmpty = true := by simpa using hnone
      constructor
      · simpa [hsome] using hnone
      · intro x hx
        rw [if_neg hsome] at hx
        obtain ⟨t, -, rfl⟩ := List.mem_map.mp hx
        exact head?_extension t

theorem mode_name (m : Mode) : m.name = "visibility".toList ∨ m.name = "round_robin".toList := by
  cases m with
  | visibility => exact .inl rfl
  | roundRobin => exact .inr rfl

theorem readSplit_usable {v : Value} {s : Split} (h : readSplit (v.get "split") default.split = .ok s) : s.Usable := by
  rw [readSplit_eq] at h
  obtain ⟨m, -, h⟩ := bind_eq_ok.mp h
  split at h
  · cases h
  · rename_i hcount
    split at h
    · cases h
    · rename_i hturn
      cases h
      refine ⟨mode_name m, ?_, ?_⟩
      · intro n hn
        dsimp only at hn
        rw [hn] at hcount
        simpa using hcount
      · rintro rfl hnone
        dsimp only at hnone
        rw [hnone] at hturn
        exact hturn rfl

theorem readParsing_usable {v : Value} {p p' : Parsing} (hp : p.Usable) (h : readParsing v p = .ok p') : p'.Usable := by
  unfold readParsing at h
  obtain ⟨keywords, -, h⟩ := bind_eq_ok.mp h
  cases h
  unfold Parsing.Usable
  split
  · exact hp
  · rename_i hsome
    simpa using hsome

theorem default_usable [NamePattern.Objects] : default.Usable where
  output := ⟨by decide, ⟨_, rfl⟩, Text.hasPart_iff.mp rfl⟩
  input := ⟨by decide, by decide⟩
  split := ⟨.inl rfl, by simp [default], by simp [default]⟩
  parsing := List.cons_ne_nil _ _

theorem usable_of_accepted [NamePattern.Objects] {v : Value} {s : Settings} (h : ofValue v = .ok s) : s.Usable := by
  unfold ofValue at h
  split at h
  · obtain ⟨output, houtput, h⟩ := bind_eq_ok.mp h
    obtain ⟨input, hinput, h⟩ := bind_eq_ok.mp h
    obtain ⟨split, hsplit, h⟩ := bind_eq_ok.mp h
    obtain ⟨parsing, hparsing, h⟩ := bind_eq_ok.mp h
    cases h
    exact ⟨readOutput_usable default_usable.output houtput, readInput_usable default_usable.input hinput,
      readSplit_usable hsplit, readParsing_usable default_usable.parsing hparsing⟩
  · split at h
    · cases h
      exact default_usable
    · cases h

/-! ## When settings are accepted -/

/-- Reading one thing after another succeeds exactly if each is read. -/
theorem forM_eq_ok {α : Type} {read : α → Except Error Unit} (xs : List α) :
    xs.forM read = .ok () ↔ ∀ x ∈ xs, read x = .ok () := by
  induction xs with
  | nil => exact iff_of_true rfl (by simp)
  | cons x xs ih =>
    change (read x >>= fun _ => xs.forM read) = .ok () ↔ _
    rw [bind_eq_ok, List.forall_mem_cons, ← ih]
    constructor
    · rintro ⟨⟨⟩, hx, hxs⟩
      exact ⟨hx, hxs⟩
    · rintro ⟨hx, hxs⟩
      exact ⟨(), hx, hxs⟩

theorem read_eq_ok_iff [NamePattern.Objects] (v : Value) (x : Entry) :
    x.read v = .ok () ↔ ¬ Refused v x ∧ ¬ Unreadable v x := by
  rw [← endsRefused_read, ← breaksOff_read]
  cases hread : x.read v with
  | ok _ => exact iff_of_true rfl ⟨not_endsRefused_ok, not_breaksOff_ok⟩
  | error e =>
    refine iff_of_false (fun h => nomatch h) ?_
    rintro ⟨hrefused, hbreaks⟩
    cases e with
    | refused r => exact hrefused ⟨r, rfl⟩
    | _ => exact hbreaks ⟨_, rfl, fun r h => nomatch h⟩

/-- The value is a mapping without an entry that is refused or unreadable, or it says nothing. -/
def Acceptable [NamePattern.Objects] : Value → Prop
  | .mapping pairs => ∀ x : Entry, ¬ Refused (.mapping pairs) x ∧ ¬ Unreadable (.mapping pairs) x
  | v => v.isVoid = true

theorem accepted_iff [NamePattern.Objects] (v : Value) : (∃ s, ofValue v = .ok s) ↔ Acceptable v := by
  cases v with
  | mapping pairs =>
    have hread : (∃ s, ofValue (.mapping pairs) = .ok s) ↔ (ofValue (.mapping pairs)).map (fun _ => ()) = .ok () := by
      cases ofValue (.mapping pairs) with
      | ok s => exact iff_of_true ⟨s, rfl⟩ rfl
      | error e =>
        constructor
        · intro ⟨_, h⟩
          cases h
        · intro h
          cases h
    have horder : ∀ x : Entry, x ∈ Entry.order := by
      intro x
      cases x <;> decide
    rw [hread, ofValue_read, forM_eq_ok]
    simp only [read_eq_ok_iff, Acceptable]
    exact ⟨fun h x => h x (horder x), fun h x _ => h x⟩
  | _ =>
    simp only [ofValue, Acceptable]
    split
    · rename_i hvoid
      exact iff_of_true ⟨default, rfl⟩ hvoid
    · rename_i hvoid
      refine iff_of_false ?_ hvoid
      rintro ⟨_, h⟩
      cases h

end TypeSplit.Settings

namespace TypeSplit.Run

/-- The number of groups is one that members can be dealt to, whether the request gives it or the settings do. -/
theorem effectiveCount_pos {s : Settings} (hs : s.split.Usable) (request : Request) {n : Int}
    (h : effectiveCount s request = some n) : 1 ≤ n := by
  unfold effectiveCount at h
  cases hcount : request.count with
  | some k =>
    rw [hcount] at h
    obtain rfl : k = n := Option.some.inj h
    exact request.count_pos k hcount
  | none =>
    rw [hcount] at h
    change s.split.defaultCount = some n at h
    unfold Settings.Split.defaultCount at h
    split at h
    · cases h
    · exact hs.count n h

theorem splitter_ofSettings {s : Settings} (hs : s.parsing.Usable) (style : Option Splitting.Style) :
    ∃ splitter, Splitter.ofSettings s style = .ok splitter := by
  have hkeywords : ¬ s.parsing.typeKeywords.isEmpty = true := fun h => hs (List.isEmpty_iff.mp h)
  unfold Splitter.ofSettings Extraction.Scanner.ofKeywords
  rw [if_neg hkeywords]
  exact ⟨_, rfl⟩

end TypeSplit.Run

namespace TypeSplit.Settings

open TypeSplit.Run (Request Splitter effectiveCount)
open TypeSplit.Yaml (Value)

/-- Settings are accepted exactly if no entry is in the way, and those that are accepted can be used. -/
theorem accepted_settings_are_usable [NamePattern.Objects] (v : Value) :
    ((∃ s, ofValue v = .ok s) ↔ Acceptable v) ∧
      ∀ s, ofValue v = .ok s → s.Usable ∧ (∀ style, ∃ splitter, Splitter.ofSettings s style = .ok splitter) ∧
        ∀ request : Request, (∀ n, effectiveCount s request = some n → 1 ≤ n) ∧
          ∀ members, ∃ groups, Splitting.groups members (effectiveCount s request) = .ok groups := by
  refine ⟨accepted_iff v, fun s hs => ?_⟩
  have husable := usable_of_accepted hs
  refine ⟨husable, Run.splitter_ofSettings husable.parsing, fun request => ?_⟩
  have hcount : ∀ n, effectiveCount s request = some n → 1 ≤ n := fun n => Run.effectiveCount_pos husable.split request
  exact ⟨hcount, fun members => Splitting.groups_ok hcount⟩

/-- Members dealt out in turn to three files, with the words of the settings in other spellings, and sources with an
extension that has no point. -/
def spelledValue : Value := .mapping [
  (.text "split".toList, .mapping [
    (.text "mode".toList, .text " Round-Robin ".toList), (.text "count".toList, .text "3".toList)]),
  (.text "input".toList, .mapping [(.text "supported_extensions".toList, .list [.text "CS".toList, .whole 7])]),
  (.text "output".toList, .mapping [(.text "file_pattern".toList, .text "\x7bpart\x7d-\x7btype[0]\x7d".toList)])]

theorem spelled_settings_are_usable :
    ∃ s, ofValue spelledValue = .ok s ∧ s.split = ⟨.roundRobin, some 3⟩ ∧
      s.input.supportedExtensions = [".cs".toList, ".7".toList] ∧ s.Usable ∧
      ∀ (request : Request) members, ∃ groups, Splitting.groups members (effectiveCount s request) = .ok groups := by
  obtain ⟨s, hs, hsplit, hextensions⟩ : ∃ s, ofValue spelledValue = .ok s ∧ s.split = ⟨.roundRobin, some 3⟩ ∧
      s.input.supportedExtensions = [".cs".toList, ".7".toList] := ⟨_, rfl, rfl, rfl⟩
  obtain ⟨husable, -, hrequests⟩ := (accepted_settings_are_usable spelledValue).2 s hs
  exact ⟨s, hs, hsplit, hextensions, husable, fun request => (hrequests request).2⟩

end TypeSplit.Settings
