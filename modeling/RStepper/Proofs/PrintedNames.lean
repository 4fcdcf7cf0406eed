import Mathlib.Data.List.TakeWhile
import RStepper.Proofs.TextLines
import RStepper.Symbol

/-! A printed vector of names is read back. The console may break it into rows where it likes, set the rows and the names
apart with any blanks, put other lines between the rows, and end its lines at LF or CRLF: what is read off are the names,
in their order. -/

namespace RStepper.Symbol
open Text

/-- Blanks that end no line. -/
def IsGap (gap : List Char) : Prop :=
  ∀ c ∈ gap, isBlank c = true ∧ c ≠ '\n'

/-- A name that stands between double quotes as it is, on one line. -/
def Quotable (name : String) : Prop :=
  '"' ∉ name.toList ∧ '\n' ∉ name.toList

instance : DecidablePred IsGap :=
  fun gap => List.decidableBAll (fun c => isBlank c = true ∧ c ≠ '\n') gap

instance : DecidablePred Quotable :=
  fun name => inferInstanceAs (Decidable ('"' ∉ name.toList ∧ '\n' ∉ name.toList))

/-- Names in double quotes, with blanks in front of each and behind the last. -/
inductive Entries : List String → List Char → Prop where
  | done {gap} (blank : IsGap gap) : Entries [] gap
  | name {gap name names rest} (blank : IsGap gap) (quotable : Quotable name) (more : Entries names rest) :
      Entries (name :: names) (gap ++ '"' :: (name.toList ++ '"' :: rest))

/-- A line of a listing and the names on it: a row of the vector begins with the index of its first element, and every
other line with something else than a bracket. -/
inductive ListingLine : List String → Line → Prop where
  | row {names indent entries} {index : Nat} (blank : IsGap indent) (shows : Entries names entries) :
      ListingLine names (indent ++ '[' :: (Nat.toDigits 10 index ++ ']' :: entries))
  | other {line} (unbroken : '\n' ∉ line) (first : line.find? (!isBlank ·) ≠ some '[') : ListingLine [] line

/-- A listing and the names that it shows, line by line. The last line may have no break behind it. -/
inductive Printed : List String → List Char → Prop where
  | last {names line} (shows : ListingLine names line) : Printed names line
  | lf {names others line rest} (shows : ListingLine names line) (more : Printed others rest) :
      Printed (names ++ others) (line ++ '\n' :: rest)
  | crlf {names others line rest} (shows : ListingLine names line) (more : Printed others rest) :
      Printed (names ++ others) (line ++ '\r' :: '\n' :: rest)

theorem isVectorRow_eq (line : Line) : isVectorRow line = decide (line.find? (!isBlank ·) = some '[') := by
  rw [List.find?_not_eq_head?_dropWhile, isVectorRow, startsWith, trimStart, Bool.eq_iff_iff, decide_eq_true_iff]
  cases line.dropWhile isBlank with
  | nil => simp
  | cons c rest => simpa using eq_comm

theorem quotedTexts_outside {before : List Char} (outside : '"' ∉ before) (rest : List Char) :
    quotedTexts none (before ++ rest) = quotedTexts none rest := by
  induction before with
  | nil => rfl
  | cons c before ih =>
    rw [List.cons_append, quotedTexts, if_neg (Ne.symm (List.ne_of_not_mem_cons outside)),
      ih (List.not_mem_of_not_mem_cons outside)]

/-- From an opening quote on, everything up to the next one is one name. -/
theorem quotedTexts_inside {name : List Char} (inside : '"' ∉ name) (read rest : List Char) :
    quotedTexts (some read) (name ++ '"' :: rest) = (read.reverse ++ name) :: quotedTexts none rest := by
  induction name generalizing read with
  | nil => simp [quotedTexts]
  | cons c name ih =>
    rw [List.cons_append, quotedTexts, if_neg (Ne.symm (List.ne_of_not_mem_cons inside)),
      ih (List.not_mem_of_not_mem_cons inside), List.reverse_cons, List.append_assoc, List.singleton_append]

theorem quotedTexts_unclosed {text : List Char} (unclosed : '"' ∉ text) (inside : Option (List Char)) :
    quotedTexts inside text = [] := by
  induction text generalizing inside with
  | nil => cases inside <;> rfl
  | cons c text ih =>
    have apart := Ne.symm (List.ne_of_not_mem_cons unclosed)
    cases inside <;> rw [quotedTexts, if_neg apart, ih (List.not_mem_of_not_mem_cons unclosed)]

theorem quotedTexts_append {after : List Char} (outside : '"' ∉ after) (inside : Option (List Char)) (line : List Char) :
    quotedTexts inside (line ++ after) = quotedTexts inside line := by
  fun_induction quotedTexts inside line with
  | case1 inside => exact quotedTexts_unclosed outside inside
  | case2 c rest ih => rw [List.cons_append, quotedTexts, ih]
  | case3 rest inside ih => rw [List.cons_append, quotedTexts, if_pos rfl, ih]
  | case4 inside c rest apart ih => rw [List.cons_append, quotedTexts, if_neg apart, ih]

def namesOn (line : Line) : List (List Char) :=
  if isVectorRow line then quotedTexts none line else []

def namesIn (text : List Char) : List (List Char) :=
  (lines text).flatMap namesOn

theorem listed_eq (listing : String) : listed listing = (namesIn listing.toList).map String.ofList := by
  have rows (shown : List Line) : (shown.filter isVectorRow).flatMap (quotedTexts none) = shown.flatMap namesOn := by
    induction shown with
    | nil => rfl
    | cons line rest ih => cases row : isVectorRow line <;> simp [namesOn, row, ih]
  rw [listed, rows, namesIn]

theorem quote_not_mem_of_isBlank {blanks : List Char} (allBlank : ∀ c ∈ blanks, isBlank c = true) : '"' ∉ blanks :=
  fun inside => absurd (allBlank _ inside) (by decide)

theorem namesOn_append {blanks : List Char} (allBlank : ∀ c ∈ blanks, isBlank c = true) (line : Line) :
    namesOn (line ++ blanks) = namesOn line := by
  have solid : blanks.find? (!isBlank ·) = none := by simpa using allBlank
  have first : (line ++ blanks).find? (!isBlank ·) = line.find? (!isBlank ·) := by
    rw [List.find?_append, solid, Option.or_none]
  rw [namesOn, isVectorRow_eq, first, ← isVectorRow_eq, quotedTexts_append (quote_not_mem_of_isBlank allBlank), namesOn]

theorem namesOn_stripBreak (piece : List Char) : namesOn (stripBreak piece) = namesOn piece := by
  have ended : ∃ blanks, (∀ c ∈ blanks, isBlank c = true) ∧ piece = stripBreak piece ++ blanks := by
    fun_induction stripBreak piece with
    | case1 => exact ⟨[], List.forall_mem_nil _, rfl⟩
    | case2 => exact ⟨['\n'], List.forall_mem_singleton.mpr (by decide), rfl⟩
    | case3 => exact ⟨['\r', '\n'], List.forall_mem_cons.mpr ⟨by decide, List.forall_mem_singleton.mpr (by decide)⟩, rfl⟩
    | case4 c rest _ _ ih =>
      obtain ⟨blanks, allBlank, same⟩ := ih
      exact ⟨blanks, allBlank, congrArg (c :: ·) same⟩
  obtain ⟨blanks, allBlank, same⟩ := ended
  rw [← namesOn_append allBlank (stripBreak piece), ← same]

theorem namesIn_line {line : Line} (unbroken : '\n' ∉ line) : namesIn line = namesOn line := by
  rw [namesIn, lines, segments_breakFree unbroken]
  split
  next empty => rw [empty]; rfl
  next => rw [List.map_singleton, List.flatMap_singleton, namesOn_stripBreak]

theorem namesIn_lf {line : Line} (unbroken : '\n' ∉ line) (rest : List Char) :
    namesIn (line ++ '\n' :: rest) = namesOn line ++ namesIn rest := by
  have blank : ∀ c ∈ ['\n'], isBlank c = true := List.forall_mem_singleton.mpr (by decide)
  rw [namesIn, lines, segments_lf unbroken, List.map_cons, List.flatMap_cons, namesOn_stripBreak, namesOn_append blank]
  rfl

theorem namesIn_crlf {line : Line} (unbroken : '\n' ∉ line) (rest : List Char) :
    namesIn (line ++ '\r' :: '\n' :: rest) = namesOn line ++ namesIn rest := by
  have longer : '\n' ∉ line ++ ['\r'] := by simpa using unbroken
  have blank : ∀ c ∈ ['\r'], isBlank c = true := List.forall_mem_singleton.mpr (by decide)
  have split := namesIn_lf longer rest
  rwa [List.append_assoc, List.singleton_append, namesOn_append blank] at split

theorem IsGap.quote_not_mem {gap : List Char} (blank : IsGap gap) : '"' ∉ gap :=
  quote_not_mem_of_isBlank fun c inside => (blank c inside).1

theorem IsGap.lf_not_mem {gap : List Char} (blank : IsGap gap) : '\n' ∉ gap :=
  fun inside => (blank _ inside).2 rfl

theorem Entries.lf_not_mem {names : List String} {entries : List Char} (shows : Entries names entries) : '\n' ∉ entries := by
  induction shows with
  | done blank => exact blank.lf_not_mem
  | name blank quotable _ ih => simp [blank.lf_not_mem, quotable.2, ih]

theorem Entries.quotedTexts_eq {names : List String} {entries : List Char} (shows : Entries names entries) :
    quotedTexts none entries = names.map String.toList := by
  induction shows with
  | done blank => exact quotedTexts_unclosed blank.quote_not_mem none
  | name blank quotable _ ih =>
    rw [quotedTexts_outside blank.quote_not_mem, quotedTexts, if_pos rfl, quotedTexts_inside quotable.1, ih]
    rfl

theorem not_mem_index (index : Nat) {c : Char} (noDigit : c.isDigit = false) : c ∉ Nat.toDigits 10 index := by
  intro inside
  rw [Nat.isDigit_of_mem_toDigits (by decide) (by decide) inside] at noDigit
  cases noDigit

theorem ListingLine.lf_not_mem {names : List String} {line : Line} (shows : ListingLine names line) : '\n' ∉ line := by
  cases shows with
  | row blank entries => simp [blank.lf_not_mem, entries.lf_not_mem, not_mem_index]
  | other unbroken _ => exact unbroken

theorem ListingLine.namesOn_eq {names : List String} {line : Line} (shows : ListingLine names line) :
    namesOn line = names.map String.toList := by
  cases shows with
  | @row _ indent entries index blank shows =>
    have opening : '"' ∉ indent ++ '[' :: (Nat.toDigits 10 index ++ [']']) := by
      simp [blank.quote_not_mem, not_mem_index]
    have first : isVectorRow (indent ++ '[' :: (Nat.toDigits 10 index ++ ']' :: entries)) = true := by
      rw [isVectorRow, trimStart_append fun c inside => (blank c inside).1, trimStart_of_not_isBlank (by decide)]
      rfl
    have split : indent ++ '[' :: (Nat.toDigits 10 index ++ ']' :: entries) =
        indent ++ '[' :: (Nat.toDigits 10 index ++ [']']) ++ entries := by simp
    rw [namesOn, first, if_pos rfl, split, quotedTexts_outside opening, shows.quotedTexts_eq]
  | other _ first => rw [namesOn, isVectorRow_eq, if_neg (by simpa using first)]; rfl

theorem Printed.namesIn_eq {names : List String} {text : List Char} (printed : Printed names text) :
    namesIn text = names.map String.toList := by
  induction printed with
  | last shows => rw [namesIn_line shows.lf_not_mem, shows.namesOn_eq]
  | lf shows _ ih => rw [namesIn_lf shows.lf_not_mem, shows.namesOn_eq, ih, List.map_append]
  | crlf shows _ ih => rw [namesIn_crlf shows.lf_not_mem, shows.namesOn_eq, ih, List.map_append]

theorem Entries.quotable {names : List String} {entries : List Char} (shows : Entries names entries) :
    ∀ name ∈ names, Quotable name := by
  induction shows with
  | done => exact nofun
  | name _ quotable _ ih => exact List.forall_mem_cons.mpr ⟨quotable, ih⟩

theorem Printed.quotable {names : List String} {text : List Char} (printed : Printed names text) :
    ∀ name ∈ names, Quotable name := by
  have onLine {names : List String} {line : Line} (shows : ListingLine names line) : ∀ name ∈ names, Quotable name := by
    cases shows with
    | row _ shows => exact shows.quotable
    | other => exact nofun
  induction printed with
  | last shows => exact onLine shows
  | lf shows _ ih | crlf shows _ ih => exact List.forall_mem_append.mpr ⟨onLine shows, ih⟩

theorem exists_entries {names : List String} (quotable : ∀ name ∈ names, Quotable name) :
    ∃ entries, Entries names entries := by
  induction names with
  | nil => exact ⟨[], .done (by decide)⟩
  | cons name names ih =>
    obtain ⟨first, rest⟩ := List.forall_mem_cons.mp quotable
    obtain ⟨entries, shows⟩ := ih rest
    exact ⟨_, @Entries.name [' '] _ _ _ (by decide) first shows⟩

/-- Names without quotes and breaks can be printed, and no others. However they are printed, they are read back, each as
often as it stands there and in that order. -/
theorem printed_names_read (names : List String) :
    ((∃ listing : String, Printed names listing.toList) ↔ ∀ name ∈ names, Quotable name) ∧
      ∀ listing : String, Printed names listing.toList → listed listing = names := by
  refine ⟨⟨fun ⟨_, printed⟩ => printed.quotable, fun quotable => ?_⟩, fun listing printed => ?_⟩
  · obtain ⟨entries, shows⟩ := exists_entries quotable
    have row : ListingLine names ([] ++ '[' :: (Nat.toDigits 10 1 ++ ']' :: entries)) := .row (by decide) shows
    exact ⟨String.ofList _, by rw [String.toList_ofList]; exact .last row⟩
  · rw [listed_eq, printed.namesIn_eq, List.map_map]
    simp [Function.comp_def]

/-- Two rows with a line of another kind between them, broken in both ways. -/
def mixedListing : String :=
  " [1] \"f[1]\"   \"my fun\" \r\nnote: [2] \"no\"\n\n\t[3] \"a`b\"\"#é\""

theorem mixedListing_printed : Printed ["f[1]", "my fun", "a`b", "#é"] mixedListing.toList := by
  have near : IsGap [] := by decide
  have space : IsGap [' '] := by decide
  have wide : IsGap "   ".toList := by decide
  have tab : IsGap ['\t'] := by decide
  have first : ListingLine ["f[1]", "my fun"] " [1] \"f[1]\"   \"my fun\" ".toList :=
    @ListingLine.row _ _ _ 1 space (.name space (by decide) (.name wide (by decide) (.done space)))
  have note : ListingLine [] "note: [2] \"no\"".toList := .other (by decide) (by decide)
  have empty : ListingLine [] [] := .other (by decide) (by decide)
  have last : ListingLine ["a`b", "#é"] "\t[3] \"a`b\"\"#é\"".toList :=
    @ListingLine.row _ _ _ 3 tab (.name space (by decide) (.name near (by decide) (.done near)))
  exact .crlf first (.lf note (.lf empty (.last last)))

theorem mixedListing_read :
    Printed ["f[1]", "my fun", "a`b", "#é"] mixedListing.toList ∧ listed mixedListing = ["f[1]", "my fun", "a`b", "#é"] :=
  ⟨mixedListing_printed, (printed_names_read _).2 _ mixedListing_printed⟩

end RStepper.Symbol
