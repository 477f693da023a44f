/-
  TypeSplit.Proofs.Refusal — which settings are refused, and which cannot be read at all.

  Settings are read entry by entry, and the first entry that fails ends the reading (`ofValue_read`). An entry that does not
  suit is refused. Some values fail in another way (`Unreadable`):
  - a whole number that is too long, where a text is wanted;
  - a whole number that is too large, where a binary number is wanted;
  - a pattern whose trial ends with an error that is not about its form, its names or its indices: it asks a value for an
    attribute or an element it has not, formats what has no format, or wants too large a number or too wide a field.
  So the reading ends with settings or with a refusal exactly if in front of every unreadable entry an entry is refused
  (`settled_iff`).
-/

import TypeSplit.NamePattern.Standard
import TypeSplit.Proofs.Filling
import TypeSplit.Settings.Load

namespace TypeSplit.Settings

open TypeSplit.Declaration (Braceless)
open TypeSplit.NamePattern (Category Values fill)
open TypeSplit.Number (Binary64)
open TypeSplit.Yaml (Value)

/-! ## Entries -/

inductive Entry where
  | directory
  | indentSize
  | filePattern
  | extensions
  | maxSize
  | mode
  | count
  | keywords
  deriving DecidableEq, Repr

namespace Entry

def order : List Entry := [.directory, .indentSize, .filePattern, .extensions, .maxSize, .mode, .count, .keywords]

def value (v : Value) : Entry → Value
  | .directory => (v.get "output").get "directory"
  | .indentSize => (v.get "output").get "indent_size"
  | .filePattern => (v.get "output").get "file_pattern"
  | .extensions => (v.get "input").get "supported_extensions"
  | .maxSize => (v.get "input").get "max_file_size_mb"
  | .mode => (v.get "split").get "mode"
  | .count => (v.get "split").get "count"
  | .keywords => (v.get "parsing").get "type_keywords"

end Entry

/-- A whole number with more digits than are written. -/
def TooLong (x : Value) : Prop := ∃ n : Int, x = .whole n ∧ 10 ^ 4300 ≤ n.natAbs

def trial : Values := ⟨['T'], 1, ".cs".toList⟩

def modeName (t : Text) : Text := Text.replaceChar '-' '_' (Text.lower (Text.strip t))

def AsksRoundRobin (x : Value) : Prop := ∃ t, nonempty? x = .ok (some t) ∧ modeName t = Mode.roundRobin.name

def caught : List Category := [.form, .name, .index]

section

variable [NamePattern.Objects]

def Refused (v : Value) : Entry → Prop
  | .indentSize => ∃ n, int? (Entry.value v .indentSize) = some n ∧ n < 0
  | .filePattern => ∃ p, nonempty? (Entry.value v .filePattern) = .ok (some p) ∧
      ((∃ e, fill p trial = .error e ∧ e.category ∈ caught) ∨
        (∃ name, fill p trial = .ok name) ∧ ¬ "\x7bpart\x7d".toList <:+: p)
  | .maxSize => ∃ x, binary? (Entry.value v .maxSize) = .ok (some x) ∧ x.isNonPositive = true
  | .mode => ∃ t, nonempty? (Entry.value v .mode) = .ok (some t) ∧ ∀ m : Mode, modeName t ≠ m.name
  | .count => (∃ n, int? (Entry.value v .count) = some n ∧ n < 1) ∨
      int? (Entry.value v .count) = none ∧ AsksRoundRobin (Entry.value v .mode)
  | _ => False

/-- An entry that can be neither taken nor refused. -/
def Unreadable (v : Value) : Entry → Prop
  | .directory => TooLong (Entry.value v .directory)
  | .filePattern => TooLong (Entry.value v .filePattern) ∨ ∃ p e, Entry.value v .filePattern = .text p ∧
      fill p trial = .error e ∧ e.category ∉ caught
  | .extensions => ∃ items, Entry.value v .extensions = .list items ∧ ∃ x ∈ items, TooLong x
  | .maxSize => ∃ n : Int, Entry.value v .maxSize = .whole n ∧ 2 ^ 1024 ≤ n.natAbs + 2 ^ 970
  | .mode => TooLong (Entry.value v .mode)
  | .keywords => ∃ items, Entry.value v .keywords = .list items ∧ ∃ x ∈ items, TooLong x
  | _ => False

/-- In front of every unreadable entry one is refused. -/
def Guarded (v : Value) : Prop :=
  ∀ before x after, Entry.order = before ++ x :: after → Unreadable v x → ∃ y ∈ before, Refused v y

end

/-! ## Results -/

section

variable {α β : Type}

def EndsRefused (x : Except Error α) : Prop := ∃ r, x = .error (.refused r)

def BreaksOff (x : Except Error α) : Prop := ∃ e, x = .error e ∧ ∀ r, e ≠ .refused r

theorem not_breaksOff_iff {x : Except Error α} : ¬ BreaksOff x ↔ (∃ a, x = .ok a) ∨ EndsRefused x := by
  cases x with
  | ok a => simp [BreaksOff, EndsRefused]
  | error e => cases e <;> simp [BreaksOff, EndsRefused]

theorem not_breaksOff_ok {a : α} : ¬ BreaksOff (.ok a : Except Error α) := fun ⟨_, h, _⟩ => nomatch h
theorem not_endsRefused_ok {a : α} : ¬ EndsRefused (.ok a : Except Error α) := fun ⟨_, h⟩ => nomatch h

theorem not_breaksOff_refuse {r : Refusal} : ¬ BreaksOff (.error (.refused r) : Except Error α) := by
  rintro ⟨e, h, hne⟩
  cases h
  exact hne r rfl

theorem endsRefused_refuse {r : Refusal} : EndsRefused (.error (.refused r) : Except Error α) := ⟨r, rfl⟩

theorem bind_eq_error {x : Except Error α} {f : α → Except Error β} {e : Error} :
    (x >>= f) = .error e ↔ x = .error e ∨ ∃ a, x = .ok a ∧ f a = .error e := by
  cases x with
  | ok a =>
    constructor
    · intro h
      exact .inr ⟨a, rfl, h⟩
    · rintro (h | ⟨b, hb, h⟩)
      · cases h
      · cases hb
        exact h
  | error e' =>
    constructor
    · intro h
      cases h
      exact .inl rfl
    · rintro (h | ⟨b, hb, -⟩)
      · cases h
        rfl
      · cases hb

theorem breaksOff_bind {x : Except Error α} {f : α → Except Error β} :
    BreaksOff (x >>= f) ↔ BreaksOff x ∨ ∃ a, x = .ok a ∧ BreaksOff (f a) := by
  constructor
  · rintro ⟨e, h, hne⟩
    rcases bind_eq_error.mp h with hx | ⟨a, ha, h⟩
    · exact .inl ⟨e, hx, hne⟩
    · exact .inr ⟨a, ha, e, h, hne⟩
  · rintro (⟨e, hx, hne⟩ | ⟨a, ha, e, h, hne⟩)
    · exact ⟨e, bind_eq_error.mpr (.inl hx), hne⟩
    · exact ⟨e, bind_eq_error.mpr (.inr ⟨a, ha, h⟩), hne⟩

theorem endsRefused_bind {x : Except Error α} {f : α → Except Error β} :
    EndsRefused (x >>= f) ↔ EndsRefused x ∨ ∃ a, x = .ok a ∧ EndsRefused (f a) := by
  constructor
  · rintro ⟨r, h⟩
    rcases bind_eq_error.mp h with hx | ⟨a, ha, h⟩
    · exact .inl ⟨r, hx⟩
    · exact .inr ⟨a, ha, r, h⟩
  · rintro (⟨r, hx⟩ | ⟨a, ha, r, h⟩)
    · exact ⟨r, bind_eq_error.mpr (.inl hx)⟩
    · exact ⟨r, bind_eq_error.mpr (.inr ⟨a, ha, h⟩)⟩

/-- Reading one thing after another does not break off exactly if in front of everything that does one is refused. -/
theorem settled_forM {read : β → Except Error Unit} (xs : List β) :
    ¬ BreaksOff (xs.forM read) ↔
      ∀ before x after, xs = before ++ x :: after → BreaksOff (read x) → ∃ y ∈ before, EndsRefused (read y) := by
  induction xs with
  | nil =>
    refine iff_of_true not_breaksOff_ok ?_
    intro before x after h
    simp at h
  | cons x xs ih =>
    have hstep : BreaksOff ((x :: xs).forM read) ↔ BreaksOff (read x) ∨ read x = .ok () ∧ BreaksOff (xs.forM read) := by
      change BreaksOff (read x >>= fun _ => xs.forM read) ↔ _
      rw [breaksOff_bind]
      refine or_congr_right ⟨?_, fun ⟨hx, h⟩ => ⟨(), hx, h⟩⟩
      rintro ⟨⟨⟩, hx, h⟩
      exact ⟨hx, h⟩
    rw [hstep, not_or, not_and, ih]
    constructor
    · rintro ⟨hx, hrest⟩ before y after h hy
      cases before with
      | nil =>
        obtain ⟨rfl, -⟩ := List.cons.inj h
        exact absurd hy hx
      | cons z before =>
        obtain ⟨rfl, rfl⟩ := List.cons.inj h
        rcases not_breaksOff_iff.mp hx with ⟨u, hu⟩ | hrefused
        · obtain ⟨w, hw, hr⟩ := hrest hu before y after rfl hy
          exact ⟨w, List.mem_cons_of_mem _ hw, hr⟩
        · exact ⟨x, List.mem_cons_self, hrefused⟩
    · intro h
      constructor
      · intro hx
        obtain ⟨y, hy, -⟩ := h [] x xs rfl hx
        cases hy
      · intro hok before y after hxs hy
        obtain ⟨w, hw, hr⟩ := h (x :: before) y after (by rw [hxs]; rfl) hy
        rcases List.mem_cons.mp hw with rfl | hw
        · rw [hok] at hr
          exact absurd hr not_endsRefused_ok
        · exact ⟨w, hw, hr⟩

end

/-! ## Reading one entry -/

def readMode (x : Value) : Except Error Mode :=
  nonempty? x >>= fun
    | some t => mode t
    | none => .ok .visibility

def inTurn (x : Value) : Bool :=
  match readMode x with
  | .ok .roundRobin => true
  | _ => false

def checkIndent (n : Option Int) : Except Error Unit := if n.any (· < 0) then refuse .indentNegative else .ok ()

def checkSize (x : Option Binary64) : Except Error Unit :=
  if x.any (·.isNonPositive) then refuse .sizeNotPositive else .ok ()

def checkCount (inTurn : Bool) (n : Option Int) : Except Error Unit :=
  if n.any (· < 1) then refuse .countNotPositive
  else if inTurn && n.isNone then refuse .countMissing else .ok ()

theorem readSplit_eq (v : Value) :
    readSplit (v.get "split") default.split = readMode (Entry.mode.value v) >>= fun m =>
      if (int? (Entry.count.value v)).any (· < 1) then refuse .countNotPositive
      else if m = .roundRobin && (int? (Entry.count.value v)).isNone then refuse .countMissing
      else .ok ⟨m, int? (Entry.count.value v)⟩ := by
  have hcount : ∀ m : Mode, (do
      let count := int? (Entry.count.value v)
      if count.any (· < 1) then refuse .countNotPositive
      let count := count <|> default.split.count
      if m = .roundRobin && count.isNone then refuse .countMissing
      return ⟨m, count⟩ : Except Error Split) =
        if (int? (Entry.count.value v)).any (· < 1) then refuse .countNotPositive
        else if m = .roundRobin && (int? (Entry.count.value v)).isNone then refuse .countMissing
        else .ok ⟨m, int? (Entry.count.value v)⟩ := by
    intro m
    have hdefault : (int? (Entry.count.value v) <|> default.split.count) = int? (Entry.count.value v) := by
      cases int? (Entry.count.value v) <;> rfl
    simp only [hdefault]
    split
    · rfl
    · split <;> rfl
  simp only [← hcount]
  simp only [readSplit, readMode, Entry.value]
  cases nonempty? ((v.get "split").get "mode") with
  | error e => rfl
  | ok m =>
    cases m with
    | none => rfl
    | some t =>
      change (mode t >>= fun _ => _) = (mode t >>= fun _ => _)
      cases mode t <;> rfl

section

variable [NamePattern.Objects]

def Entry.read (v : Value) (x : Entry) : Except Error Unit :=
  match x with
  | .directory => nonempty? (x.value v) >>= fun _ => .ok ()
  | .indentSize => checkIndent (int? (x.value v))
  | .filePattern => nonempty? (x.value v) >>= fun
    | some p => checkPattern p
    | none => .ok ()
  | .extensions => texts (x.value v) >>= fun _ => .ok ()
  | .maxSize => binary? (x.value v) >>= checkSize
  | .mode => readMode (x.value v) >>= fun _ => .ok ()
  | .count => checkCount (inTurn (Entry.mode.value v)) (int? (x.value v))
  | .keywords => texts (x.value v) >>= fun _ => .ok ()

theorem readOutput_read (v : Value) (o : Output) :
    (readOutput (v.get "output") o).map (fun _ => ()) = [Entry.directory, .indentSize, .filePattern].forM (Entry.read v) := by
  change _ = (Entry.directory.read v >>= fun _ => Entry.indentSize.read v >>= fun _ =>
    Entry.filePattern.read v >>= fun _ => .ok ())
  simp only [readOutput, Entry.read, Entry.value]
  unfold checkIndent
  cases nonempty? ((v.get "output").get "directory") with
  | error e => rfl
  | ok directory =>
    by_cases hneg : (int? ((v.get "output").get "indent_size")).any (· < 0) = true
    · simp only [if_pos hneg]
      rfl
    · simp only [if_neg hneg]
      cases nonempty? ((v.get "output").get "file_pattern") with
      | error e => rfl
      | ok pattern =>
        cases pattern with
        | none => rfl
        | some p =>
          change Except.map _ (checkPattern p >>= fun _ => _) = (checkPattern p >>= fun _ => _)
          cases checkPattern p <;> rfl

theorem readInput_read (v : Value) (i : Input) :
    (readInput (v.get "input") i).map (fun _ => ()) = [Entry.extensions, .maxSize].forM (Entry.read v) := by
  change _ = (Entry.extensions.read v >>= fun _ => Entry.maxSize.read v >>= fun _ => .ok ())
  simp only [readInput, Entry.read, Entry.value]
  unfold checkSize
  cases texts ((v.get "input").get "supported_extensions") with
  | error e => rfl
  | ok extensions =>
    cases binary? ((v.get "input").get "max_file_size_mb") with
    | error e => rfl
    | ok size =>
      simp only [bind, Except.bind]
      cases size.any (·.isNonPositive) <;> rfl

theorem readSplit_read (v : Value) :
    (readSplit (v.get "split") default.split).map (fun _ => ()) = [Entry.mode, .count].forM (Entry.read v) := by
  change _ = (Entry.mode.read v >>= fun _ => Entry.count.read v >>= fun _ => .ok ())
  rw [readSplit_eq]
  cases hm : readMode (Entry.mode.value v) with
  | error e =>
    have hread : Entry.mode.read v = .error e := by rw [Entry.read, hm]; rfl
    rw [hread]
    rfl
  | ok m =>
    have hread : Entry.mode.read v = .ok () := by rw [Entry.read, hm]; rfl
    have hcount : Entry.count.read v = checkCount (m = .roundRobin) (int? (Entry.count.value v)) := by
      rw [Entry.read, inTurn, hm]
      cases m <;> rfl
    rw [hread, hcount]
    change Except.map _ (if _ then _ else _) = (checkCount _ _ >>= fun _ => .ok ())
    unfold checkCount
    split
    · rfl
    · split <;> rfl

theorem readParsing_read (v : Value) (p : Parsing) :
    (readParsing (v.get "parsing") p).map (fun _ => ()) = [Entry.keywords].forM (Entry.read v) := by
  change _ = (Entry.keywords.read v >>= fun _ => .ok ())
  simp only [readParsing, Entry.read, Entry.value]
  cases texts ((v.get "parsing").get "type_keywords") <;> rfl

/-- The settings of a mapping are read entry by entry. -/
theorem ofValue_read (pairs : List (Value × Value)) :
    (ofValue (.mapping pairs)).map (fun _ => ()) = Entry.order.forM (Entry.read (.mapping pairs)) := by
  have horder : Entry.order.forM (Entry.read (.mapping pairs)) =
      ([Entry.directory, .indentSize, .filePattern].forM (Entry.read (.mapping pairs)) >>= fun _ =>
        [Entry.extensions, .maxSize].forM (Entry.read (.mapping pairs)) >>= fun _ =>
          [Entry.mode, .count].forM (Entry.read (.mapping pairs)) >>= fun _ =>
            [Entry.keywords].forM (Entry.read (.mapping pairs))) := by
    have happend : ∀ xs ys : List Entry, (xs ++ ys).forM (Entry.read (.mapping pairs)) =
        (xs.forM (Entry.read (.mapping pairs)) >>= fun _ => ys.forM (Entry.read (.mapping pairs))) :=
      fun xs ys => List.forM_append
    rw [← happend, ← happend, ← happend]
    rfl
  rw [horder, ← readOutput_read _ default.output, ← readInput_read _ default.input, ← readSplit_read,
    ← readParsing_read _ default.parsing]
  simp only [ofValue]
  cases readOutput (Value.get "output" (.mapping pairs)) default.output with
  | error e => rfl
  | ok output =>
    cases readInput (Value.get "input" (.mapping pairs)) default.input with
    | error e => rfl
    | ok input =>
      cases readSplit (Value.get "split" (.mapping pairs)) default.split with
      | error e => rfl
      | ok split => cases readParsing (Value.get "parsing" (.mapping pairs)) default.parsing <;> rfl

end

/-! ## Values that cannot be read -/

section

variable {α β : Type} {P : Prop}

/-- Breaks off if `P` holds and gives a result if not. -/
def ReadsUnless (P : Prop) (x : Except Error α) : Prop := P ∧ BreaksOff x ∨ ¬ P ∧ ∃ a, x = .ok a

theorem ReadsUnless.breaksOff_iff {x : Except Error α} (h : ReadsUnless P x) : BreaksOff x ↔ P := by
  rcases h with ⟨hp, hx⟩ | ⟨hp, a, rfl⟩
  · exact iff_of_true hx hp
  · exact iff_of_false not_breaksOff_ok hp

theorem ReadsUnless.not_endsRefused {x : Except Error α} (h : ReadsUnless P x) : ¬ EndsRefused x := by
  rcases h with ⟨-, e, rfl, hne⟩ | ⟨-, a, rfl⟩
  · rintro ⟨r, hr⟩
    cases hr
    exact hne r rfl
  · exact not_endsRefused_ok

theorem ReadsUnless.bind {x : Except Error α} (h : ReadsUnless P x) (f : α → β) : ReadsUnless P (x >>= fun a => .ok (f a)) := by
  rcases h with ⟨hp, hx⟩ | ⟨hp, a, rfl⟩
  · exact .inl ⟨hp, breaksOff_bind.mpr (.inl hx)⟩
  · exact .inr ⟨hp, f a, rfl⟩

theorem readsUnless_ok (h : ¬ P) (a : α) : ReadsUnless P (.ok a) := .inr ⟨h, a, rfl⟩

theorem readsUnless_mapM {f : α → Except Error β} {P : α → Prop} (xs : List α) (h : ∀ x, ReadsUnless (P x) (f x)) :
    ReadsUnless (∃ x ∈ xs, P x) (xs.mapM f) := by
  induction xs with
  | nil => exact readsUnless_ok (by simp) _
  | cons x xs ih =>
    rw [List.mapM_cons]
    rcases h x with ⟨hx, hbreak⟩ | ⟨hx, y, hy⟩
    · exact .inl ⟨⟨x, List.mem_cons_self, hx⟩, breaksOff_bind.mpr (.inl hbreak)⟩
    · rcases ih with ⟨⟨z, hz, hp⟩, hbreak⟩ | ⟨hnone, ys, hys⟩
      · refine .inl ⟨⟨z, List.mem_cons_of_mem _ hz, hp⟩, breaksOff_bind.mpr (.inr ⟨y, hy, ?_⟩)⟩
        exact breaksOff_bind.mpr (.inl hbreak)
      · refine .inr ⟨?_, y :: ys, by rw [hy, hys]; rfl⟩
        rintro ⟨z, hz, hp⟩
        rcases List.mem_cons.mp hz with rfl | hz
        · exact hx hp
        · exact hnone ⟨z, hz, hp⟩

end

theorem readsUnless_text? (x : Value) : ReadsUnless (TooLong x) (text? x) := by
  cases x with
  | whole n =>
    rw [text?, NamePattern.Format.wholeText_eq]
    by_cases hn : 10 ^ 4300 ≤ n.natAbs
    · rw [if_pos hn]
      exact .inl ⟨⟨n, rfl, hn⟩, _, rfl, fun r h => nomatch h⟩
    · rw [if_neg hn]
      refine readsUnless_ok ?_ _
      intro ⟨m, h, hm⟩
      cases h
      exact hn hm
  | _ => exact readsUnless_ok (fun ⟨_, h, _⟩ => nomatch h) _

theorem readsUnless_nonempty? (x : Value) : ReadsUnless (TooLong x) (nonempty? x) :=
  (readsUnless_text? x).bind (Option.filter (!·.isEmpty))

theorem readsUnless_itemText? (x : Value) : ReadsUnless (TooLong x) (itemText? x) := by
  cases x with
  | bool b => exact readsUnless_ok (fun ⟨_, h, _⟩ => nomatch h) _
  | _ => exact readsUnless_text? _

/-- A list is read unless one of its items is too long. -/
theorem readsUnless_texts (x : Value) : ReadsUnless (∃ items, x = .list items ∧ ∃ y ∈ items, TooLong y) (texts x) := by
  cases x with
  | list items =>
    have hitems := (readsUnless_mapM items readsUnless_itemText?).bind (·.filterMap id)
    have hlist : (∃ items', Value.list items = .list items' ∧ ∃ y ∈ items', TooLong y) ↔ ∃ y ∈ items, TooLong y := by simp
    rw [hlist]
    exact hitems
  | _ => exact readsUnless_ok (fun ⟨_, h, _⟩ => nomatch h) _

theorem readsUnless_binary? (x : Value) :
    ReadsUnless (∃ n : Int, x = .whole n ∧ 2 ^ 1024 ≤ n.natAbs + 2 ^ 970) (binary? x) := by
  cases x with
  | whole n =>
    have hbound := Binary64.isInfinite_ofInt_iff n
    rw [binary?]
    by_cases hn : (Binary64.ofInt n).isInfinite = true
    · rw [if_pos hn]
      exact .inl ⟨⟨n, rfl, hbound.mp hn⟩, _, rfl, fun r h => nomatch h⟩
    · rw [if_neg hn]
      refine readsUnless_ok ?_ _
      rintro ⟨m, h, hm⟩
      cases h
      exact hn (hbound.mpr hm)
  | _ => exact readsUnless_ok (fun ⟨_, h, _⟩ => nomatch h) _

/-! ## Patterns and modes -/

/-- A pattern is the text of the entry, or it comes from a number and has no fields. -/
theorem nonempty?_eq_some {x : Value} {p : Text} (h : nonempty? x = .ok (some p)) : x = .text p ∨ Braceless p := by
  obtain ⟨t, ht, hp⟩ := bind_eq_ok.mp h
  obtain ⟨rfl, -⟩ := Option.filter_eq_some_iff.mp (pure_eq_ok.mp hp)
  cases x with
  | text t =>
    cases ht
    exact .inl rfl
  | whole n =>
    refine .inr ?_
    rw [text?, NamePattern.Format.wholeText_eq] at ht
    split at ht
    · cases ht
    · cases ht
      exact Number.braceless_decimalInt n
  | binary x =>
    cases ht
    exact .inr (Number.braceless_plain x)
  | _ => cases ht

section

variable [NamePattern.Objects]

/-- How the trial of a pattern ends. -/
theorem checkPattern_cases (p : Text) :
    (∃ e, fill p trial = .error e ∧ e.category ∈ caught ∧ checkPattern p = .error (.refused (.patternInvalid p))) ∨
    (∃ e, fill p trial = .error e ∧ e.category ∉ caught ∧ checkPattern p = .error (.pattern e)) ∨
    ∃ name, fill p trial = .ok name ∧ checkPattern p =
      if Text.hasPart "\x7bpart\x7d".toList p then .ok () else .error (.refused .patternWithoutPart) := by
  unfold checkPattern
  rw [show NamePattern.fill p ⟨['T'], 1, ".cs".toList⟩ = fill p trial from rfl]
  cases hfill : fill p trial with
  | ok name => exact .inr (.inr ⟨name, rfl, rfl⟩)
  | error e =>
    simp only
    cases hcategory : e.category with
    | form => exact .inl ⟨e, rfl, by simp [caught, hcategory], rfl⟩
    | name => exact .inl ⟨e, rfl, by simp [caught, hcategory], rfl⟩
    | index => exact .inl ⟨e, rfl, by simp [caught, hcategory], rfl⟩
    | _ => exact .inr (.inl ⟨e, rfl, by simp [caught, hcategory], rfl⟩)

theorem checkPattern_eq_ok {p : Text} (h : checkPattern p = .ok ()) :
    (∃ name, fill p trial = .ok name) ∧ "\x7bpart\x7d".toList <:+: p := by
  rcases checkPattern_cases p with ⟨e, -, -, hcheck⟩ | ⟨e, -, -, hcheck⟩ | ⟨name, hname, hcheck⟩
  · rw [h] at hcheck
    cases hcheck
  · rw [h] at hcheck
    cases hcheck
  · rw [h] at hcheck
    split at hcheck
    · rename_i hpart
      exact ⟨⟨name, hname⟩, Text.hasPart_iff.mp hpart⟩
    · cases hcheck

theorem breaksOff_checkPattern (p : Text) :
    BreaksOff (checkPattern p) ↔ ∃ e, fill p trial = .error e ∧ e.category ∉ caught := by
  rcases checkPattern_cases p with ⟨e, hfill, hcategory, h⟩ | ⟨e, hfill, hcategory, h⟩ | ⟨name, hfill, h⟩
  · rw [h]
    refine iff_of_false not_breaksOff_refuse ?_
    rintro ⟨e', he, hcategory'⟩
    rw [hfill] at he
    cases he
    exact hcategory' hcategory
  · rw [h]
    exact iff_of_true ⟨_, rfl, fun r hr => nomatch hr⟩ ⟨e, hfill, hcategory⟩
  · rw [h, hfill]
    refine iff_of_false ?_ (fun ⟨_, he, _⟩ => nomatch he)
    split
    · exact not_breaksOff_ok
    · exact not_breaksOff_refuse

theorem endsRefused_checkPattern (p : Text) :
    EndsRefused (checkPattern p) ↔ (∃ e, fill p trial = .error e ∧ e.category ∈ caught) ∨
      (∃ name, fill p trial = .ok name) ∧ ¬ "\x7bpart\x7d".toList <:+: p := by
  rw [← Text.hasPart_iff]
  rcases checkPattern_cases p with ⟨e, hfill, hcategory, h⟩ | ⟨e, hfill, hcategory, h⟩ | ⟨name, hfill, h⟩
  · rw [h]
    exact iff_of_true endsRefused_refuse (.inl ⟨e, hfill, hcategory⟩)
  · rw [h, hfill]
    refine iff_of_false (fun ⟨_, hr⟩ => nomatch hr) ?_
    rintro (⟨e', he, hform⟩ | ⟨⟨name, hname⟩, -⟩)
    · cases he
      exact hcategory hform
    · cases hname
  · rw [h, hfill]
    split
    · rename_i hpart
      refine iff_of_false not_endsRefused_ok ?_
      rintro (⟨e', he, -⟩ | ⟨-, hno⟩)
      · cases he
      · exact hno hpart
    · rename_i hno
      exact iff_of_true endsRefused_refuse (.inr ⟨⟨name, rfl⟩, hno⟩)

end

theorem mode_cases (t : Text) :
    (∃ m, mode t = .ok m ∧ modeName t = m.name) ∨ EndsRefused (mode t) ∧ ∀ m : Mode, modeName t ≠ m.name := by
  unfold mode
  rw [show Text.replaceChar '-' '_' (Text.lower (Text.strip t)) = modeName t from rfl]
  by_cases hv : modeName t = Mode.visibility.name
  · rw [if_pos hv]
    exact .inl ⟨_, rfl, hv⟩
  · by_cases hr : modeName t = Mode.roundRobin.name
    · rw [if_neg hv, if_pos hr]
      exact .inl ⟨_, rfl, hr⟩
    · rw [if_neg hv, if_neg hr]
      refine .inr ⟨endsRefused_refuse, ?_⟩
      intro m
      cases m with
      | visibility => exact hv
      | roundRobin => exact hr

theorem breaksOff_readMode (x : Value) : BreaksOff (readMode x) ↔ TooLong x := by
  unfold readMode
  rw [breaksOff_bind, (readsUnless_nonempty? x).breaksOff_iff]
  refine or_iff_left ?_
  rintro ⟨t, -, hbreak⟩
  cases t with
  | none => exact not_breaksOff_ok hbreak
  | some t =>
    have hbreak : BreaksOff (mode t) := hbreak
    rcases mode_cases t with ⟨m, hm, -⟩ | ⟨⟨r, hr⟩, -⟩
    · rw [hm] at hbreak
      exact not_breaksOff_ok hbreak
    · rw [hr] at hbreak
      exact not_breaksOff_refuse hbreak

theorem endsRefused_readMode (x : Value) :
    EndsRefused (readMode x) ↔ ∃ t, nonempty? x = .ok (some t) ∧ ∀ m : Mode, modeName t ≠ m.name := by
  unfold readMode
  rw [endsRefused_bind, or_iff_right (readsUnless_nonempty? x).not_endsRefused]
  constructor
  · rintro ⟨t, ht, hrefused⟩
    cases t with
    | none => exact absurd hrefused not_endsRefused_ok
    | some t =>
      have hrefused : EndsRefused (mode t) := hrefused
      rcases mode_cases t with ⟨m, hm, -⟩ | ⟨-, hno⟩
      · rw [hm] at hrefused
        exact absurd hrefused not_endsRefused_ok
      · exact ⟨t, ht, hno⟩
  · rintro ⟨t, ht, hno⟩
    refine ⟨some t, ht, ?_⟩
    rcases mode_cases t with ⟨m, -, hname⟩ | ⟨hrefused, -⟩
    · exact absurd hname (hno m)
    · exact hrefused

theorem inTurn_iff (x : Value) : inTurn x = true ↔ AsksRoundRobin x := by
  have hmode : inTurn x = true ↔ readMode x = .ok .roundRobin := by
    unfold inTurn
    split
    · rename_i h
      exact iff_of_true rfl h
    · rename_i hno
      exact iff_of_false Bool.false_ne_true hno
  rw [hmode]
  unfold readMode AsksRoundRobin
  rw [bind_eq_ok]
  constructor
  · rintro ⟨t, ht, hturn⟩
    cases t with
    | none => cases hturn
    | some t =>
      have hturn : mode t = .ok .roundRobin := hturn
      rcases mode_cases t with ⟨m, hm, hname⟩ | ⟨⟨r, hr⟩, -⟩
      · rw [hm] at hturn
        cases hturn
        exact ⟨t, ht, hname⟩
      · rw [hr] at hturn
        cases hturn
  · rintro ⟨t, ht, hturn⟩
    refine ⟨some t, ht, ?_⟩
    rcases mode_cases t with ⟨m, hm, hname⟩ | ⟨-, hno⟩
    · cases m with
      | visibility => exact absurd (hname.symm.trans hturn) (by decide)
      | roundRobin => exact hm
    · exact absurd hturn (hno _)

/-! ## Bounds -/

section

variable {α : Type} {p : α → Bool} {r : Refusal} {x : Option α}

theorem not_breaksOff_bound : ¬ BreaksOff (if x.any p then refuse r else .ok () : Except Error Unit) := by
  split
  · exact not_breaksOff_refuse
  · exact not_breaksOff_ok

theorem endsRefused_bound :
    EndsRefused (if x.any p then refuse r else .ok () : Except Error Unit) ↔ ∃ a, x = some a ∧ p a = true := by
  cases x with
  | none => exact iff_of_false not_endsRefused_ok (fun ⟨_, h, _⟩ => nomatch h)
  | some a =>
    by_cases ha : p a = true
    · rw [Option.any_some, if_pos ha]
      exact iff_of_true endsRefused_refuse ⟨a, rfl, ha⟩
    · rw [Option.any_some, if_neg ha]
      refine iff_of_false not_endsRefused_ok ?_
      rintro ⟨b, hb, hp⟩
      cases hb
      exact ha hp

end

theorem checkCount_eq (turn : Bool) (n : Option Int) :
    checkCount turn n = if turn && n.isNone then refuse .countMissing
      else if n.any (· < 1) then refuse .countNotPositive else .ok () := by
  unfold checkCount
  cases n with
  | none => rfl
  | some n => rw [if_neg (c := (turn && (some n).isNone) = true) (by simp)]; simp

theorem not_breaksOff_checkCount (turn : Bool) (n : Option Int) : ¬ BreaksOff (checkCount turn n) := by
  rw [checkCount_eq]
  split
  · exact not_breaksOff_refuse
  · exact not_breaksOff_bound

theorem endsRefused_checkCount (turn : Bool) (n : Option Int) :
    EndsRefused (checkCount turn n) ↔ (∃ k, n = some k ∧ k < 1) ∨ n = none ∧ turn = true := by
  rw [checkCount_eq]
  split
  · rename_i h
    rw [Bool.and_eq_true, Option.isNone_iff_eq_none] at h
    exact iff_of_true endsRefused_refuse (.inr ⟨h.2, h.1⟩)
  · rename_i h
    rw [Bool.and_eq_true, Option.isNone_iff_eq_none] at h
    rw [endsRefused_bound, or_iff_left fun ⟨hn, ht⟩ => h ⟨ht, hn⟩]
    simp

theorem breaksOff_map {α β : Type} {x : Except Error α} {f : α → β} : BreaksOff (x.map f) ↔ BreaksOff x := by
  have hmap : x.map f = x >>= fun a => .ok (f a) := by cases x <;> rfl
  rw [hmap, breaksOff_bind]
  exact or_iff_left fun ⟨_, _, h⟩ => not_breaksOff_ok h

section

variable [NamePattern.Objects]

/-! ## Entries, refused and unreadable -/

/-- Only a text is tried as a pattern without success: a number has no fields, and an empty text is no pattern. -/
theorem breaksOff_filePattern (v : Value) : BreaksOff (Entry.filePattern.read v) ↔ Unreadable v .filePattern := by
  unfold Entry.read Unreadable
  generalize Entry.filePattern.value v = x
  rw [breaksOff_bind, (readsUnless_nonempty? x).breaksOff_iff]
  refine or_congr_right ⟨?_, ?_⟩
  · rintro ⟨p, hp, hbreak⟩
    cases p with
    | none => exact absurd hbreak not_breaksOff_ok
    | some p =>
      obtain ⟨e, hfill, hcategory⟩ := (breaksOff_checkPattern p).mp hbreak
      rcases nonempty?_eq_some hp with hx | hplain
      · exact ⟨p, e, hx, hfill, hcategory⟩
      · rw [NamePattern.fill_braceless hplain] at hfill
        cases hfill
  · rintro ⟨p, e, rfl, hfill, hcategory⟩
    refine ⟨some p, ?_, (breaksOff_checkPattern p).mpr ⟨e, hfill, hcategory⟩⟩
    cases p with
    | nil =>
      rw [NamePattern.fill_braceless ⟨by simp, by simp⟩] at hfill
      cases hfill
    | cons c p => rfl

theorem breaksOff_read (v : Value) (x : Entry) : BreaksOff (x.read v) ↔ Unreadable v x := by
  cases x with
  | directory => exact ((readsUnless_nonempty? _).bind _).breaksOff_iff
  | indentSize => exact iff_of_false not_breaksOff_bound id
  | filePattern => exact breaksOff_filePattern v
  | extensions => exact ((readsUnless_texts _).bind _).breaksOff_iff
  | maxSize =>
    show BreaksOff (binary? _ >>= checkSize) ↔ _
    rw [breaksOff_bind, (readsUnless_binary? _).breaksOff_iff]
    exact or_iff_left fun ⟨_, _, hbreak⟩ => not_breaksOff_bound hbreak
  | mode =>
    show BreaksOff (readMode _ >>= fun _ => .ok ()) ↔ _
    rw [breaksOff_bind, breaksOff_readMode]
    exact or_iff_left fun ⟨_, _, hbreak⟩ => not_breaksOff_ok hbreak
  | count => exact iff_of_false (not_breaksOff_checkCount _ _) id
  | keywords => exact ((readsUnless_texts _).bind _).breaksOff_iff

theorem endsRefused_read (v : Value) (x : Entry) : EndsRefused (x.read v) ↔ Refused v x := by
  cases x with
  | directory => exact iff_of_false ((readsUnless_nonempty? _).bind _).not_endsRefused id
  | indentSize =>
    refine endsRefused_bound.trans ?_
    simp [Refused]
  | filePattern =>
    unfold Entry.read Refused
    rw [endsRefused_bind, or_iff_right (readsUnless_nonempty? _).not_endsRefused]
    constructor
    · rintro ⟨p, hp, hrefused⟩
      cases p with
      | none => exact absurd hrefused not_endsRefused_ok
      | some p => exact ⟨p, hp, (endsRefused_checkPattern p).mp hrefused⟩
    · rintro ⟨p, hp, hunfit⟩
      exact ⟨some p, hp, (endsRefused_checkPattern p).mpr hunfit⟩
  | extensions => exact iff_of_false ((readsUnless_texts _).bind _).not_endsRefused id
  | maxSize =>
    show EndsRefused (binary? _ >>= checkSize) ↔ _
    rw [endsRefused_bind, or_iff_right (readsUnless_binary? _).not_endsRefused]
    constructor
    · rintro ⟨size, hsize, hrefused⟩
      obtain ⟨x, rfl, hx⟩ := endsRefused_bound.mp hrefused
      exact ⟨x, hsize, hx⟩
    · rintro ⟨x, hx, hle⟩
      exact ⟨some x, hx, endsRefused_bound.mpr ⟨x, rfl, hle⟩⟩
  | mode =>
    show EndsRefused (readMode _ >>= fun _ => .ok ()) ↔ _
    rw [endsRefused_bind, endsRefused_readMode]
    exact or_iff_left fun ⟨_, _, hrefused⟩ => not_endsRefused_ok hrefused
  | count =>
    refine (endsRefused_checkCount _ _).trans ?_
    rw [inTurn_iff]
    rfl
  | keywords => exact iff_of_false ((readsUnless_texts _).bind _).not_endsRefused id

/-! ## Whole settings -/

/-- What is no mapping has no entries. -/
theorem guarded_of_not_mapping {v : Value} (h : ∀ pairs, v ≠ .mapping pairs) : Guarded v := by
  have hget : ∀ key, v.get key = .null := by
    intro key
    cases v with
    | mapping pairs => exact absurd rfl (h pairs)
    | _ => rfl
  intro before x after _ hx
  have hvalue : x.value v = .null := by
    cases x <;> simp only [Entry.value, hget] <;> rfl
  have hnull : ¬ Unreadable v x := by
    cases x with
    | indentSize | count => exact id
    | directory | extensions | maxSize | mode | keywords =>
      rintro ⟨_, h, -⟩
      rw [hvalue] at h
      cases h
    | filePattern =>
      rintro (⟨_, h, -⟩ | ⟨_, _, h, -⟩)
      · rw [hvalue] at h
        cases h
      · rw [hvalue] at h
        cases h
  exact absurd hx hnull

/-- Reading settings ends with settings or with a refusal exactly if in front of every unreadable entry one is refused. -/
theorem settled_iff (v : Value) :
    ((∃ s, ofValue v = .ok s) ∨ ∃ r, ofValue v = .error (.refused r)) ↔ Guarded v := by
  have hsettled : ((∃ s, ofValue v = .ok s) ∨ ∃ r, ofValue v = .error (.refused r)) ↔ ¬ BreaksOff (ofValue v) :=
    not_breaksOff_iff.symm
  rw [hsettled]
  cases hv : v with
  | mapping pairs =>
    rw [← breaksOff_map (f := fun _ => ()), ofValue_read, settled_forM]
    simp only [breaksOff_read, endsRefused_read]
    rfl
  | _ =>
    refine iff_of_true ?_ (guarded_of_not_mapping fun pairs h => nomatch h)
    simp only [ofValue]
    split
    · exact not_breaksOff_ok
    · exact not_breaksOff_refuse

end

/-- A negative indentation and, behind it, a limit that is too large for a binary number. -/
def guardedValue : Value := .mapping [
  (.text "input".toList, .mapping [(.text "max_file_size_mb".toList, .whole (2 ^ 1024 : Nat))]),
  (.text "output".toList, .mapping [(.text "indent_size".toList, .whole (-1))])]

theorem a_refusal_comes_first :
    ofValue guardedValue = .error (.refused .indentNegative) ∧ Unreadable guardedValue .maxSize ∧ Guarded guardedValue := by
  have hrefused : ofValue guardedValue = .error (.refused .indentNegative) := rfl
  refine ⟨hrefused, ⟨(2 ^ 1024 : Nat), rfl, ?_⟩, (settled_iff guardedValue).mp (.inr ⟨_, hrefused⟩)⟩
  rw [Int.natAbs_natCast]
  exact Nat.le_add_right _ _

def attributeValue : Value := .mapping [
  (.text "output".toList, .mapping [(.text "file_pattern".toList, .text "\x7btype.x\x7d\x7bpart\x7d".toList)])]

theorem an_unknown_attribute_is_not_refused :
    ofValue attributeValue = .error (.pattern (.noAttribute "'str' object".toList ['x'])) ∧
      ∀ r, ofValue attributeValue ≠ .error (.refused r) := by
  have hfails : ofValue attributeValue = .error (.pattern (.noAttribute "'str' object".toList ['x'])) := rfl
  refine ⟨hfails, fun r h => ?_⟩
  rw [hfails] at h
  cases h

end TypeSplit.Settings
