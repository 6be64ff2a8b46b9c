/-
# Theory.Text -- searching, trimming and lines

The operations of `str` a text format is read and written with, on the list of
characters.  A text is its lines and back (`pieces`, `unpieces`), and a pattern without a
newline is found inside a line or not at all (`infix_unpieces`, `find_line`): so what
these operations do to a file is read off its lines.
-/
import Mathlib.Data.List.DropRight
import Mathlib.Data.List.Infix
import RustSsh.Theory.Framing

namespace RustSsh.Theory

set_option autoImplicit false

abbrev Text := List Char

namespace Text

/-! ## Bytes -/

/-- `str::as_bytes`. -/
def encode (t : Text) : Bytes := t.flatMap String.utf8EncodeChar

/-- `String::from_utf8`, and the check of `read_to_string`. -/
def decode (bytes : Bytes) : Option Text := (String.fromUTF8? bytes.toByteArray).map String.toList

theorem encode_append (s t : Text) : encode (s ++ t) = encode s ++ encode t :=
  List.flatMap_append

@[simp] theorem decode_encode (t : Text) : decode (encode t) = some t := by
  have bytes : (encode t).toByteArray = (String.ofList t).toByteArray := by
    rw [String.toByteArray_ofList]
    rfl
  rw [decode, bytes, String.fromUTF8?, dif_pos (String.ofList t).isValidUTF8]
  exact congrArg some String.toList_ofList

/-- Only one byte sequence is read as a text. -/
theorem encode_of_decode {bytes : Bytes} {t : Text} (read : decode bytes = some t) :
    encode t = bytes := by
  unfold decode String.fromUTF8? at read
  split at read
  · cases read
    rename_i valid
    have back : String.ofList (String.fromUTF8 _ valid).toList = String.fromUTF8 _ valid :=
      String.ofList_toList
    have same := congrArg String.toByteArray back
    rw [String.toByteArray_ofList] at same
    have bytes_same : (encode (String.fromUTF8 _ valid).toList).toByteArray = bytes.toByteArray := same
    have data := congrArg (fun b : ByteArray => b.data.toList) bytes_same
    simpa [List.data_toByteArray] using data
  · cases read

/-- Each ASCII character is one byte. -/
theorem encode_ascii {t : Text} (ascii : ∀ c ∈ t, c.toNat ≤ 127) :
    encode t = t.map fun c => UInt8.ofNat c.toNat := by
  induction t with
  | nil => rfl
  | cons c rest ih =>
      have code : c.val.toNat = c.toNat := rfl
      have one : String.utf8EncodeChar c = [UInt8.ofNat c.toNat] := by
        simp [String.utf8EncodeChar, code, ascii c List.mem_cons_self]
      have later := ih fun d inside => ascii d (List.mem_cons_of_mem _ inside)
      rw [encode] at later ⊢
      rw [List.flatMap_cons, one, later, List.map_cons, List.singleton_append]

theorem encode_take {t : Text} (ascii : ∀ c ∈ t, c.toNat ≤ 127) (k : Nat) :
    (encode t).take k = encode (t.take k) := by
  rw [encode_ascii ascii, encode_ascii fun c inside => ascii c (List.mem_of_mem_take inside),
    List.map_take]

theorem length_encode (t : Text) : t.length ≤ (encode t).length := by
  induction t with
  | nil => exact Nat.le_refl _
  | cons c rest ih =>
      have size : 0 < (String.utf8EncodeChar c).length := by
        rw [String.length_utf8EncodeChar]
        exact Char.utf8Size_pos c
      have split : encode (c :: rest) = String.utf8EncodeChar c ++ encode rest := List.flatMap_cons
      rw [split, List.length_append, List.length_cons]
      omega

/-! ## White space -/

/-- `char::is_whitespace`: the Unicode property White_Space. -/
def isWhitespace (c : Char) : Bool :=
  let n := c.toNat
  (9 ≤ n && n ≤ 13) || n == 0x20 || n == 0x85 || n == 0xA0 || n == 0x1680 ||
    (0x2000 ≤ n && n ≤ 0x200A) || n == 0x2028 || n == 0x2029 || n == 0x202F || n == 0x205F ||
    n == 0x3000

/-- `str::trim_start`. -/
def trimStart (t : Text) : Text := t.dropWhile isWhitespace

/-- `str::trim_end`. -/
def trimEnd (t : Text) : Text := t.rdropWhile isWhitespace

/-- `str::trim`. -/
def trim (t : Text) : Text := trimEnd (trimStart t)

/-- `trim().is_empty()`. -/
def blank (t : Text) : Bool := t.all isWhitespace

theorem trimEnd_snoc {t : Text} {c : Char} (solid : isWhitespace c = false) :
    trimEnd (t ++ [c]) = t ++ [c] :=
  List.rdropWhile_concat_neg _ _ _ (by simp [solid])

theorem trimEnd_spaces {t spaces : Text} (white : ∀ c ∈ spaces, isWhitespace c = true) :
    trimEnd (t ++ spaces) = trimEnd t := by
  induction spaces using List.reverseRecOn with
  | nil => simp
  | append_singleton spaces c ih =>
      rw [← List.append_assoc]
      have last : isWhitespace c = true := white c (by simp)
      rw [trimEnd, List.rdropWhile_concat_pos _ _ _ last]
      exact ih fun d member => white d (by simp [member])

/-- `trim_end` takes white space off the end. -/
theorem trimEnd_split (t : Text) :
    ∃ spaces, t = trimEnd t ++ spaces ∧ ∀ c ∈ spaces, isWhitespace c = true := by
  refine ⟨t.rtakeWhile isWhitespace, List.rdropWhile_append_rtakeWhile.symm, ?_⟩
  intro c member
  exact List.mem_rtakeWhile_imp member

/-- A text that starts and ends with a solid character is trimmed already. -/
theorem trim_solid {t : Text} (first : ∀ c, t.head? = some c → isWhitespace c = false)
    (last : ∀ c, t.getLast? = some c → isWhitespace c = false) : trim t = t := by
  have start : trimStart t = t := by
    cases t with
    | nil => rfl
    | cons c rest => simp [trimStart, first c rfl]
  rw [trim, start]
  cases t using List.reverseRecOn with
  | nil => rfl
  | append_singleton rest c => exact trimEnd_snoc (last c (by simp))

theorem trim_of_solid {t : Text} (solid : ∀ c ∈ t, isWhitespace c = false) : trim t = t := by
  apply trim_solid
  · intro c head
    exact solid c (List.mem_of_mem_head? head)
  · intro c last
    exact solid c (List.mem_of_mem_getLast? last)

/-- White space behind a text is trimmed. -/
theorem trim_spaces {t spaces : Text} (white : ∀ c ∈ spaces, isWhitespace c = true) :
    trim (t ++ spaces) = trim t := by
  rw [trim, trimStart, List.dropWhile_append]
  split
  · rename_i empty
    have gone : spaces.dropWhile isWhitespace = [] := List.dropWhile_eq_nil_iff.mpr white
    rw [List.isEmpty_iff] at empty
    rw [gone, trim, trimStart, empty]
  · exact trimEnd_spaces white

@[simp] theorem trim_trim (t : Text) : trim (trim t) = trim t := by
  apply trim_solid
  · intro c first
    have front : trimEnd (trimStart t) <+: trimStart t := List.rdropWhile_prefix _ _
    obtain ⟨rest, split⟩ := front
    have head : (t.dropWhile isWhitespace).head? = some c := by
      show (trimStart t).head? = some c
      rw [← split]
      rw [trim] at first
      cases shape : trimEnd (trimStart t) with
      | nil => simp [shape] at first
      | cons d more =>
          rw [shape] at first
          simpa using first
    have solid := List.head?_dropWhile_not isWhitespace t
    rw [head] at solid
    simpa using solid
  · intro c last
    rw [trim] at last
    have nonempty : (trimStart t).rdropWhile isWhitespace ≠ [] := by
      intro empty
      rw [trimEnd, empty] at last
      cases last
    have solid := List.rdropWhile_last_not isWhitespace (trimStart t) nonempty
    rw [trimEnd, List.getLast?_eq_some_getLast nonempty] at last
    cases last
    simpa using solid

/-- Trimming the end leaves a solid first character. -/
theorem trimEnd_head {c : Char} (t : Text) (solid : isWhitespace c = false) :
    ∃ rest, trimEnd (c :: t) = c :: rest := by
  have before : trimEnd (c :: t) <+: c :: t := List.rdropWhile_prefix _ _
  cases trimmed : trimEnd (c :: t) with
  | nil =>
      have all := List.rdropWhile_eq_nil_iff.mp trimmed
      rw [all c List.mem_cons_self] at solid
      cases solid
  | cons d rest =>
      rw [trimmed] at before
      exact ⟨rest, by rw [(List.cons_prefix_cons.mp before).1]⟩

/-! ## Pieces and lines -/

/-- What stands between the newlines; never empty. -/
def pieces (t : Text) : List Text := t.splitOn '\n'

/-- The text with these pieces. -/
def unpieces (ls : List Text) : Text := ['\n'].intercalate ls

@[simp] theorem unpieces_pieces (t : Text) : unpieces (pieces t) = t := List.intercalate_splitOn ..

theorem pieces_unpieces {ls : List Text} (nonempty : ls ≠ []) (flat : ∀ l ∈ ls, '\n' ∉ l) :
    pieces (unpieces ls) = ls := List.splitOn_intercalate _ flat nonempty

theorem pieces_append (s t : Text) : pieces (s ++ '\n' :: t) = pieces s ++ pieces t :=
  List.splitOn_append_cons_self ..

theorem pieces_ne_nil (t : Text) : pieces t ≠ [] := List.splitOn_ne_nil _ _

@[simp] theorem pieces_nil : pieces [] = [[]] := rfl

@[simp] theorem unpieces_singleton (l : Text) : unpieces [l] = l := by simp [unpieces]

theorem unpieces_cons {l : Text} {ls : List Text} (nonempty : ls ≠ []) :
    unpieces (l :: ls) = l ++ '\n' :: unpieces ls := by
  simp [unpieces, List.intercalate_cons_of_ne_nil nonempty]

theorem unpieces_append {ks ls : List Text} (left : ks ≠ []) (right : ls ≠ []) :
    unpieces (ks ++ ls) = unpieces ks ++ '\n' :: unpieces ls := by
  induction ks with
  | nil => exact absurd rfl left
  | cons k rest ih =>
      by_cases last : rest = []
      · rw [last]
        simp [unpieces_cons right]
      · rw [List.cons_append, unpieces_cons (by simp [last]), unpieces_cons last, ih last,
          List.append_assoc, List.cons_append]

theorem mem_intercalate {separator : Text} {ls : List Text} {c : Char}
    (inside : c ∈ separator.intercalate ls) : c ∈ separator ∨ ∃ l ∈ ls, c ∈ l := by
  induction ls with
  | nil => simp at inside
  | cons l rest ih =>
      by_cases last : rest = []
      · subst last
        exact .inr ⟨l, List.mem_cons_self, by simpa using inside⟩
      · rw [List.intercalate_cons_of_ne_nil last, List.mem_append, List.mem_append] at inside
        grind

/-- A line without the carriage return its line ending may have had. -/
def stripReturn (l : Text) : Text := if l.getLast? = some '\r' then l.dropLast else l

/-- `str::lines`: every piece but the last ends in a newline, and the last is a line unless
it is empty. -/
def lines (t : Text) : List Text :=
  ((pieces t).dropLast.map stripReturn) ++ (pieces t).getLast?.toList.filter (· ≠ [])

theorem stripReturn_eq {l : Text} (plain : '\r' ∉ l) : stripReturn l = l := by
  unfold stripReturn
  split
  · rename_i last
    exact absurd (List.mem_of_mem_getLast? last) plain
  · rfl

theorem mem_pieces {t l : Text} (member : l ∈ pieces t) {c : Char} (inside : c ∈ l) : c ∈ t := by
  rw [← unpieces_pieces t]
  generalize pieces t = ls at member
  induction ls with
  | nil => cases member
  | cons k rest ih =>
      by_cases last : rest = []
      · rw [last] at member ⊢
        rw [List.mem_singleton.mp member] at inside
        simpa using inside
      · rw [unpieces_cons last]
        cases List.mem_cons.mp member with
        | inl here =>
            rw [here] at inside
            exact List.mem_append_left _ inside
        | inr later =>
            exact List.mem_append_right _ (List.mem_cons_of_mem _ (ih later))

theorem pieces_no_newline {t l : Text} (member : l ∈ pieces t) : '\n' ∉ l := by
  induction t generalizing l with
  | nil => simp_all
  | cons c rest ih =>
      obtain ⟨first, more, split⟩ := List.exists_cons_of_ne_nil (pieces_ne_nil rest)
      rw [split] at ih
      by_cases newline : c = '\n'
      · have cut : pieces (c :: rest) = [] :: pieces rest := by
          rw [newline]
          exact pieces_append [] rest
        rw [cut, split] at member
        cases List.mem_cons.mp member with
        | inl here => simp [here]
        | inr later => exact ih later
      · have cut : pieces (c :: rest) = (c :: first) :: more := by
          rw [pieces, List.splitOn_cons_eq_if_modifyHead]
          simp only [pieces] at split
          simp [newline, split]
        rw [cut] at member
        cases List.mem_cons.mp member with
        | inl here =>
            have inner := ih (l := first) List.mem_cons_self
            simp [here, inner, Ne.symm newline]
        | inr later => exact ih (List.mem_cons_of_mem _ later)

/-- Without carriage returns the lines are the pieces, up to an empty one at the end. -/
theorem lines_plain {t : Text} (plain : '\r' ∉ t) :
    lines t = (pieces t).dropLast ++ (pieces t).getLast?.toList.filter (· ≠ []) := by
  have same : (pieces t).dropLast.map stripReturn = (pieces t).dropLast := by
    conv_rhs => rw [← List.map_id (pieces t).dropLast]
    apply List.map_congr_left
    intro l member
    apply stripReturn_eq
    intro inside
    exact plain (mem_pieces (List.mem_of_mem_dropLast member) inside)
  rw [lines, same]

theorem mem_unpieces {ls : List Text} {c : Char} (inside : c ∈ unpieces ls) :
    c = '\n' ∨ ∃ l ∈ ls, c ∈ l := by
  cases mem_intercalate inside with
  | inl newline => exact .inl (List.mem_singleton.mp newline)
  | inr other => exact .inr other

theorem lines_unpieces {ls : List Text} (nonempty : ls ≠ []) (flat : ∀ l ∈ ls, '\n' ∉ l)
    (plain : ∀ l ∈ ls, '\r' ∉ l) :
    lines (unpieces ls) = ls.dropLast ++ ls.getLast?.toList.filter (· ≠ []) := by
  have no_return : '\r' ∉ unpieces ls := by
    intro inside
    cases mem_unpieces inside with
    | inl newline => cases newline
    | inr other =>
        obtain ⟨l, member, there⟩ := other
        exact plain l member there
  rw [lines_plain no_return, pieces_unpieces nonempty flat]

theorem mem_lines {t l : Text} (member : l ∈ lines t) {c : Char} (inside : c ∈ l) : c ∈ t := by
  cases List.mem_append.mp member with
  | inl early =>
      obtain ⟨piece, own, rfl⟩ := List.mem_map.mp early
      apply mem_pieces (List.mem_of_mem_dropLast own)
      unfold stripReturn at inside
      split at inside
      · exact List.mem_of_mem_dropLast inside
      · exact inside
  | inr last =>
      have piece := List.mem_of_mem_filter last
      rw [Option.mem_toList] at piece
      exact mem_pieces (List.mem_of_mem_getLast? piece) inside

/-! ## Searching -/

/-- `str::find`, counting characters. -/
def find : Text → Text → Option Nat
  | [], pattern => if pattern = [] then some 0 else none
  | c :: rest, pattern =>
      if pattern.isPrefixOf (c :: rest) then some 0 else (find rest pattern).map (· + 1)

/-- How often the pattern begins in the text. -/
def occurrences : Text → Text → Nat
  | [], pattern => if pattern = [] then 1 else 0
  | c :: rest, pattern =>
      (if pattern.isPrefixOf (c :: rest) then 1 else 0) + occurrences rest pattern

theorem find_none_of {pattern t : Text} (absent : ¬ pattern <:+: t) : t.find pattern = none := by
  induction t with
  | nil =>
      have solid : pattern ≠ [] := by
        rintro rfl
        exact absent List.nil_infix
      simp [find, solid]
  | cons c rest ih =>
      rw [List.infix_cons_iff, not_or] at absent
      rw [find, if_neg (by simpa using absent.1), ih absent.2]
      rfl

/-- What `find` returns is the first place. -/
theorem find_some {pattern t : Text} {i : Nat} (found : t.find pattern = some i) :
    pattern <+: t.drop i ∧ i + pattern.length ≤ t.length ∧ ∀ j < i, ¬ pattern <+: t.drop j := by
  induction t generalizing i with
  | nil =>
      by_cases solid : pattern = []
      · simp [find, solid] at found
        simp [solid, ← found]
      · simp [find, solid] at found
  | cons c rest ih =>
      rw [find] at found
      by_cases here : pattern.isPrefixOf (c :: rest) = true
      · rw [if_pos here] at found
        cases found
        have starts := List.isPrefixOf_iff_prefix.mp here
        exact ⟨starts, by simpa using starts.length_le, by simp⟩
      · rw [if_neg here] at found
        obtain ⟨k, later, rfl⟩ := Option.map_eq_some_iff.mp found
        obtain ⟨starts, fits, none⟩ := ih later
        refine ⟨starts, by simp; omega, ?_⟩
        intro j before
        cases j with
        | zero => simpa using here
        | succ j => exact none j (by omega)

theorem find_eq_none {pattern t : Text} : t.find pattern = none ↔ ¬ pattern <:+: t := by
  constructor
  · intro none found
    induction t with
    | nil => simp [find, List.infix_nil.mp found] at none
    | cons c rest ih =>
        rw [find] at none
        split at none
        · cases none
        · rename_i not_here
          rw [List.infix_cons_iff] at found
          cases found with
          | inl here => exact not_here (List.isPrefixOf_iff_prefix.mpr here)
          | inr later => exact ih (Option.map_eq_none_iff.mp none) later
  · exact find_none_of

theorem occurrences_none {pattern t : Text} (absent : ¬ pattern <:+: t) :
    t.occurrences pattern = 0 := by
  induction t with
  | nil =>
      have solid : pattern ≠ [] := by
        rintro rfl
        exact absent List.nil_infix
      simp [occurrences, solid]
  | cons c rest ih =>
      rw [List.infix_cons_iff, not_or] at absent
      rw [occurrences, if_neg (by simpa using absent.1), ih absent.2]

/-- A pattern that starts before a character it does not have ends before it. -/
theorem prefix_separator {pattern s t : Text} {separator : Char} (foreign : separator ∉ pattern)
    (starts : pattern <+: s ++ separator :: t) : pattern <+: s := by
  induction s generalizing pattern with
  | nil =>
      cases pattern with
      | nil => exact List.nil_prefix
      | cons c rest =>
          obtain ⟨same, -⟩ := List.cons_prefix_cons.mp starts
          exact absurd (by simp [same]) foreign
  | cons d s ih =>
      cases pattern with
      | nil => exact List.nil_prefix
      | cons c rest =>
          obtain ⟨same, more⟩ := List.cons_prefix_cons.mp starts
          apply List.cons_prefix_cons.mpr
          exact ⟨same, ih (by simp_all) more⟩

theorem not_prefix_separator {pattern t : Text} {separator : Char} (foreign : separator ∉ pattern)
    (solid : pattern ≠ []) : ¬ pattern <+: separator :: t := by
  intro starts
  exact solid (List.prefix_nil.mp (prefix_separator (s := []) foreign starts))

theorem infix_separator {pattern s t : Text} {separator : Char} (foreign : separator ∉ pattern)
    (solid : pattern ≠ []) :
    pattern <:+: s ++ separator :: t ↔ pattern <:+: s ∨ pattern <:+: t := by
  induction s with
  | nil => simp [List.infix_cons_iff, not_prefix_separator foreign solid, solid]
  | cons c rest ih =>
      rw [List.cons_append, List.infix_cons_iff, ih, List.infix_cons_iff, or_assoc]
      constructor
      · intro found
        cases found with
        | inl here => exact .inl (prefix_separator (s := c :: rest) foreign here)
        | inr later => exact .inr later
      · intro found
        cases found with
        | inl here => exact .inl (here.trans (List.prefix_append (c :: rest) _))
        | inr later => exact .inr later

/-- A pattern is not in a text that lacks one of its characters. -/
theorem not_infix_of_lacks {pattern t : Text} {c : Char} (has : c ∈ pattern) (lacks : c ∉ t) :
    ¬ pattern <:+: t := by
  intro found
  exact lacks (found.subset has)

/-- A pattern does not begin in a text that lacks its first character. -/
theorem not_infix_append {c : Char} {rest s t : Text} (lacks : c ∉ s)
    (absent : ¬ c :: rest <:+: t) : ¬ c :: rest <:+: s ++ t := by
  induction s with
  | nil => exact absent
  | cons d s ih =>
      rw [List.cons_append, List.infix_cons_iff, not_or]
      refine ⟨?_, ih (by simp_all)⟩
      intro starts
      exact lacks (by simp [(List.cons_prefix_cons.mp starts).1])

/-- Characters the pattern does not have may be written twice, or with one it does not have
in front. -/
theorem prefix_flatMap {pattern : Text} {f : Char → Text}
    (escapes : ∀ c, f c = [c] ∨ ∃ lead ∉ pattern, ∃ more, f c = lead :: more) {t : Text}
    (starts : pattern <+: t.flatMap f) : pattern <+: t := by
  induction t generalizing pattern with
  | nil => simpa using starts
  | cons c rest ih =>
      cases pattern with
      | nil => exact List.nil_prefix
      | cons d pattern =>
          rw [List.flatMap_cons] at starts
          cases escapes c with
          | inl plain =>
              rw [plain, List.singleton_append] at starts
              obtain ⟨same, more⟩ := List.cons_prefix_cons.mp starts
              apply List.cons_prefix_cons.mpr
              refine ⟨same, ih ?_ more⟩
              intro c'
              cases escapes c' with
              | inl plain' => exact .inl plain'
              | inr led =>
                  obtain ⟨lead, foreign, led⟩ := led
                  exact .inr ⟨lead, fun inside => foreign (List.mem_cons_of_mem _ inside), led⟩
          | inr led =>
              obtain ⟨lead, foreign, more, written⟩ := led
              rw [written, List.cons_append] at starts
              exact absurd starts (not_prefix_separator foreign (by simp))

theorem infix_flatMap {pattern : Text} {f : Char → Text} (solid : pattern ≠ [])
    (escapes : ∀ c, f c = [c] ∨ c ∉ pattern ∧ ∃ lead ∉ pattern, f c = [lead, c]) {t : Text}
    (found : pattern <:+: t.flatMap f) : pattern <:+: t := by
  have leads : ∀ c, f c = [c] ∨ ∃ lead ∉ pattern, ∃ more, f c = lead :: more := by
    intro c
    cases escapes c with
    | inl plain => exact .inl plain
    | inr led =>
        obtain ⟨-, lead, foreign, written⟩ := led
        exact .inr ⟨lead, foreign, [c], written⟩
  induction t with
  | nil => simpa using found
  | cons c rest ih =>
      rw [List.flatMap_cons] at found
      rw [List.infix_cons_iff]
      cases escapes c with
      | inl plain =>
          rw [plain, List.singleton_append, List.infix_cons_iff] at found
          cases found with
          | inl here =>
              apply Or.inl
              apply prefix_flatMap leads
              rw [List.flatMap_cons, plain]
              exact here
          | inr later => exact .inr (ih later)
      | inr led =>
          obtain ⟨own, lead, foreign, written⟩ := led
          rw [written] at found
          have after := (infix_separator (s := []) foreign solid).mp found
          cases after with
          | inl empty => exact absurd (List.infix_nil.mp empty) solid
          | inr later =>
              have last := (infix_separator (s := []) own solid).mp later
              cases last with
              | inl empty => exact absurd (List.infix_nil.mp empty) solid
              | inr later => exact .inr (ih later)

/-- A pattern without newlines is in the text exactly if it is in one of its pieces. -/
theorem infix_unpieces {pattern : Text} {ls : List Text} (flat : '\n' ∉ pattern)
    (solid : pattern ≠ []) : pattern <:+: unpieces ls ↔ ∃ l ∈ ls, pattern <:+: l := by
  induction ls with
  | nil => simp [unpieces, solid]
  | cons l rest ih =>
      by_cases last : rest = []
      · simp [last]
      · rw [unpieces_cons last, infix_separator flat solid, ih]
        simp

/-- Before a line that starts with the pattern nothing is found. -/
theorem find_line {pattern : Text} (flat : '\n' ∉ pattern) (solid : pattern ≠ []) {ks : List Text}
    (absent : ∀ l ∈ ks, ¬ pattern <:+: l) (t : Text) :
    find (unpieces (ks ++ [[]]) ++ pattern ++ t) pattern = some (unpieces (ks ++ [[]])).length ∧
      occurrences (unpieces (ks ++ [[]]) ++ pattern ++ t) pattern =
        occurrences (pattern ++ t) pattern := by
  have here : find (pattern ++ t) pattern = some 0 := by
    cases pattern with
    | nil => exact absurd rfl solid
    | cons c rest => simp [find]
  by_cases none : ks = []
  · subst none
    exact ⟨by simpa using here, by simp⟩
  · rw [unpieces_append none (by simp), unpieces_singleton]
    have away : ¬ pattern <:+: unpieces ks := by
      rw [infix_unpieces flat solid]
      push Not
      exact absent
    generalize unpieces ks = s at away
    induction s with
    | nil =>
        have not_newline : ¬ pattern <+: '\n' :: (pattern ++ t) := not_prefix_separator flat solid
        constructor
        · simp [find, not_newline, here]
        · simp [occurrences, not_newline]
    | cons c rest ih =>
        rw [List.infix_cons_iff, not_or] at away
        obtain ⟨found, counted⟩ := ih away.2
        have not_here : ¬ pattern <+: c :: (rest ++ '\n' :: (pattern ++ t)) := by
          intro starts
          exact away.1 (prefix_separator (s := c :: rest) flat starts)
        simp only [List.append_assoc, List.cons_append, List.nil_append] at found counted ⊢
        constructor
        · simp [find, not_here, found]
        · simp [occurrences, not_here, counted]

theorem unpieces_line (ks : List Text) (l : Text) {ls : List Text} (more : ls ≠ []) :
    unpieces (ks ++ l :: ls) = unpieces (ks ++ [[]]) ++ l ++ '\n' :: unpieces ls := by
  by_cases none : ks = []
  · simp [none, unpieces_cons more]
  · rw [unpieces_append none (by simp), unpieces_append none (by simp), unpieces_cons more]
    simp

/-- A pattern that is a line of its own, and in no other line, occurs once. -/
theorem occurrences_line {pattern : Text} (flat : '\n' ∉ pattern) (solid : pattern ≠ [])
    {ks ls : List Text} (before : ∀ l ∈ ks, ¬ pattern <:+: l) (after : ∀ l ∈ ls, ¬ pattern <:+: l)
    (more : ls ≠ []) : occurrences (unpieces (ks ++ pattern :: ls)) pattern = 1 := by
  rw [unpieces_line ks pattern more, (find_line flat solid before _).2]
  cases pattern with
  | nil => exact absurd rfl solid
  | cons c rest =>
      have none : ¬ (c :: rest) <:+: rest ++ '\n' :: unpieces ls := by
        rw [infix_separator flat solid, infix_unpieces flat solid]
        push Not
        refine ⟨?_, after⟩
        intro found
        have short := found.length_le
        rw [List.length_cons] at short
        omega
      rw [List.cons_append, occurrences, occurrences_none none]
      simp

/-! ## Replacing -/

/-- Replace the matches from left to right; the next `skip` characters are matched already. -/
def replaceFrom (pattern replacement : Text) : Nat → Text → Text
  | _, [] => []
  | skip + 1, _ :: rest => replaceFrom pattern replacement skip rest
  | 0, c :: rest =>
      if pattern.isPrefixOf (c :: rest) then
        replacement ++ replaceFrom pattern replacement (pattern.length - 1) rest
      else c :: replaceFrom pattern replacement 0 rest

/-- `str::replace`, of a pattern that is not empty. -/
def replace (t pattern replacement : Text) : Text := replaceFrom pattern replacement 0 t

@[simp] theorem replace_nil (pattern replacement : Text) : replace [] pattern replacement = [] := rfl

theorem replace_other {c : Char} {t pattern : Text} (replacement : Text)
    (other : ¬ pattern <+: c :: t) :
    replace (c :: t) pattern replacement = c :: replace t pattern replacement := by
  simp [replace, replaceFrom, other]

theorem replace_here (pattern replacement t : Text) (solid : pattern ≠ []) :
    replace (pattern ++ t) pattern replacement = replacement ++ replace t pattern replacement := by
  cases pattern with
  | nil => exact absurd rfl solid
  | cons c rest =>
      have skipped (skip : Text) : replaceFrom (c :: rest) replacement skip.length (skip ++ t) =
          replaceFrom (c :: rest) replacement 0 t := by
        induction skip with
        | nil => rfl
        | cons d skip ih => simpa [replaceFrom] using ih
      have after := skipped rest
      simp [replace, replaceFrom, after]

theorem replace_char (t : Text) (c : Char) (replacement : Text) :
    replace t [c] replacement = t.flatMap fun d => if d = c then replacement else [d] := by
  induction t with
  | nil => rfl
  | cons d rest ih =>
      by_cases same : d = c
      · have here := replace_here [c] replacement rest (by simp)
        rw [List.singleton_append] at here
        rw [same, here, List.flatMap_cons, ih]
        simp
      · rw [replace_other replacement (by simp [List.cons_prefix_cons, Ne.symm same]),
          List.flatMap_cons, ih]
        simp [same]

theorem length_le_replace_char (t : Text) (c : Char) (replacement : Text)
    (filled : 0 < replacement.length) : t.length ≤ (replace t [c] replacement).length := by
  rw [replace_char]
  induction t with
  | nil => exact Nat.le_refl _
  | cons d rest ih =>
      rw [List.flatMap_cons, List.length_append, List.length_cons]
      split
      · omega
      · rw [List.length_singleton]
        omega

end Text

end RustSsh.Theory
