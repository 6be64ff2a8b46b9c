/-
# Theory.SshConfig -- how ssh reads its configuration

A configuration is read line by line.  A `Host` line says for which hosts the lines behind it are, a
`Match` line for which connections, and of the settings of one kind the first one that is for the
connection counts.  What a `Match` line asks is a parameter (`holds`); `Include` and quotes in
patterns are not read.

`setting` is the value that counts.  Lines that are not for the host are passed over
(`pass_inactive`), and so are lines of other kinds (`pass_other`): the value is that of the first
section for the host that has one (`setting_section`).
-/
import RustSsh.Theory.Text

namespace RustSsh.Theory.SshConfig

open RustSsh.Theory

set_option autoImplicit false

/-! ## Patterns -/

/-- `*` stands for any characters, `?` for one. -/
def patternMatches : Text → Text → Bool
  | [], name => name.isEmpty
  | c :: pattern, name =>
      if c = '*' then name.tails.any (patternMatches pattern)
      else
        match name with
        | [] => false
        | d :: name => (c = '?' || c = d) && patternMatches pattern name

/-- A pattern that matches one name. -/
def Literal (pattern : Text) : Prop := ∀ c ∈ pattern, c ≠ '*' ∧ c ≠ '?' ∧ c ≠ '!'

theorem patternMatches_literal {pattern : Text} (literal : Literal pattern) (name : Text) :
    patternMatches pattern name = true ↔ name = pattern := by
  induction pattern generalizing name with
  | nil => simp [patternMatches]
  | cons c pattern ih =>
      have here := literal c List.mem_cons_self
      have rest : Literal pattern := fun d inside => literal d (List.mem_cons_of_mem _ inside)
      cases name with
      | nil => simp [patternMatches, here.1]
      | cons d name =>
          simp only [patternMatches, here.1, here.2.1, if_false, decide_false, Bool.false_or,
            Bool.and_eq_true, decide_eq_true_eq, ih rest, List.cons.injEq]
          exact and_congr_left fun _ => eq_comm

/-- A pattern behind `!` excludes. -/
def hostMatches (name : Text) (patterns : List Text) : Bool :=
  (patterns.any fun pattern => pattern.head? != some '!' && patternMatches pattern name) &&
    !patterns.any fun pattern => pattern.head? == some '!' && patternMatches pattern.tail name

theorem hostMatches_literal {pattern : Text} (literal : Literal pattern) (name : Text) :
    hostMatches name [pattern] = true ↔ name = pattern := by
  have positive : pattern.head? ≠ some '!' := fun starts =>
    (literal '!' (List.mem_of_head? starts)).2.2 rfl
  simp [hostMatches, positive, patternMatches_literal literal]

/-! ## Lines -/

def isBlank (c : Char) : Bool := c = ' ' || c = '\t' || c = '\r' || c = '\n'

/-- What stands between a keyword and its argument. -/
def separates (c : Char) : Bool := isBlank c || c = '='

/-- The keyword, in lower case, and the argument. -/
def parseLine (line : Text) : Option (Text × Text) :=
  match line.dropWhile isBlank with
  | [] => none
  | c :: rest =>
      if c = '#' then none
      else
        let line := c :: rest
        some ((line.takeWhile fun d => !separates d).map Char.toLower,
          ((line.dropWhile fun d => !separates d).dropWhile separates).rdropWhile isBlank)

theorem parseLine_comment (rest : Text) : parseLine ('#' :: rest) = none := by
  simp [parseLine, isBlank]

def words (argument : Text) : List Text :=
  (argument.splitOnP isBlank).filter (!·.isEmpty)

theorem words_single {word : Text} (nonempty : word ≠ []) (solid : ∀ c ∈ word, isBlank c = false) :
    words word = [word] := by
  have whole : word.splitOnP isBlank = [word] :=
    List.splitOnP_eq_singleton fun c inside => by simp [solid c inside]
  simp [words, whole, nonempty]

/-- The line of a setting, up to what is behind its keyword. -/
theorem parseLine_keyword (indent keyword rest : Text)
    (blank : ∀ c ∈ indent, isBlank c = true) (nonempty : keyword ≠ [])
    (solid : (keyword.all fun c => !separates c) = true) (plain : '#' ∉ keyword) :
    parseLine (indent ++ keyword ++ ' ' :: rest) =
      some (keyword.map Char.toLower, (rest.dropWhile separates).rdropWhile isBlank) := by
  obtain ⟨c, more, rfl⟩ := List.exists_cons_of_ne_nil nonempty
  have kept := List.all_eq_true.mp solid
  have first : isBlank c = false := by
    have apart := kept c List.mem_cons_self
    simp only [separates, Bool.not_eq_true', Bool.or_eq_false_iff] at apart
    exact apart.1
  have marked : c ≠ '#' := fun same => plain (same ▸ List.mem_cons_self)
  have stripped : (indent ++ (c :: more) ++ ' ' :: rest).dropWhile isBlank =
      c :: (more ++ ' ' :: rest) := by
    rw [List.append_assoc, List.dropWhile_append_of_pos blank, List.cons_append]
    simp [first]
  have taken : (c :: (more ++ ' ' :: rest)).takeWhile (fun d => !separates d) = c :: more := by
    rw [← List.cons_append, List.takeWhile_append_of_pos kept]
    simp [separates, isBlank]
  have dropped : (c :: (more ++ ' ' :: rest)).dropWhile (fun d => !separates d) = ' ' :: rest := by
    rw [← List.cons_append, List.dropWhile_append_of_pos kept]
    simp [separates, isBlank]
  simp only [parseLine, stripped, if_neg marked, taken, dropped]
  simp [separates, isBlank]

/-- An argument that neither starts nor ends with a blank. -/
structure Trimmed (argument : Text) : Prop where
  first : ∀ c, argument.head? = some c → separates c = false
  last : ∀ c, argument.getLast? = some c → isBlank c = false

theorem Trimmed.kept {argument : Text} (trimmed : Trimmed argument) :
    (argument.dropWhile separates).rdropWhile isBlank = argument := by
  have front : argument.dropWhile separates = argument := by
    cases argument with
    | nil => rfl
    | cons c rest => simp [trimmed.first c rfl]
  rw [front, List.rdropWhile_eq_self_iff]
  intro nonempty
  simp [trimmed.last _ (List.getLast?_eq_some_getLast nonempty)]

/-! ## What counts -/

structure Reading where
  /-- the lines that come are for the connection -/
  active : Bool
  /-- the first setting of the kind, with its keyword -/
  found : Option (Text × Text)
  deriving DecidableEq, Repr

section

variable (holds : Text → Bool) (name : Text) (keywords : List Text)

def readLine (s : Reading) (line : Text) : Reading :=
  match parseLine line with
  | none => s
  | some (keyword, argument) =>
      if keyword = "host".toList then { s with active := hostMatches name (words argument) }
      else if keyword = "match".toList then { s with active := holds argument }
      else if s.active && s.found.isNone && keywords.contains keyword then
        { s with found := some (keyword, argument) }
      else s

def readLines (s : Reading) (lines : List Text) : Reading :=
  lines.foldl (readLine holds name keywords) s

/-- The first setting for the host that has one of the keywords. -/
def setting (lines : List Text) : Option (Text × Text) :=
  (readLines holds name keywords ⟨true, none⟩ lines).found

end

/-- A line that is no section's first and has none of the keywords. -/
def Other (keywords : List Text) (line : Text) : Prop :=
  ∀ keyword argument, parseLine line = some (keyword, argument) →
    keyword ≠ "host".toList ∧ keyword ≠ "match".toList ∧ keyword ∉ keywords

section

variable {holds : Text → Bool} {name : Text} {keywords : List Text}

theorem readLine_setting (s : Reading) {line keyword argument : Text}
    (parsed : parseLine line = some (keyword, argument))
    (plain : keyword ≠ "host".toList ∧ keyword ≠ "match".toList) :
    readLine holds name keywords s line =
      if s.active && s.found.isNone && keywords.contains keyword then
        { s with found := some (keyword, argument) }
      else s := by
  simp only [readLine, parsed]
  rw [if_neg plain.1, if_neg plain.2]

theorem readLines_append (s : Reading) (front behind : List Text) :
    readLines holds name keywords s (front ++ behind) =
      readLines holds name keywords (readLines holds name keywords s front) behind :=
  List.foldl_append

/-- What is found stays. -/
theorem readLines_found (s : Reading) {value : Text × Text} (found : s.found = some value)
    (lines : List Text) : (readLines holds name keywords s lines).found = some value := by
  induction lines generalizing s with
  | nil => exact found
  | cons line rest ih =>
      refine ih (readLine holds name keywords s line) ?_
      unfold readLine
      split
      · exact found
      · split
        · exact found
        · split
          · exact found
          · rw [if_neg (by simp [found])]
            exact found

theorem pass_other (s : Reading) {lines : List Text} (other : ∀ line ∈ lines, Other keywords line) :
    readLines holds name keywords s lines = s := by
  induction lines with
  | nil => rfl
  | cons line rest ih =>
      have here : readLine holds name keywords s line = s := by
        cases parsed : parseLine line with
        | none => simp only [readLine, parsed]
        | some pair =>
            obtain ⟨host, criteria, absent⟩ := other line List.mem_cons_self _ _ parsed
            rw [readLine_setting s parsed ⟨host, criteria⟩, if_neg (by simp [absent])]
      rw [readLines, List.foldl_cons, here]
      exact ih fun line inside => other line (List.mem_cons_of_mem _ inside)

/-- A section for other hosts. -/
theorem pass_inactive (s : Reading) {header : Text} {pattern : Text} {lines : List Text}
    (starts : parseLine header = some ("host".toList, pattern))
    (differs : hostMatches name (words pattern) = false)
    (inside : ∀ line ∈ lines, Other [] line) :
    readLines holds name keywords s (header :: lines) = { s with active := false } := by
  have skipped (found : Option (Text × Text)) (lines : List Text)
      (inside : ∀ line ∈ lines, Other [] line) :
      readLines holds name keywords ⟨false, found⟩ lines = ⟨false, found⟩ := by
    induction lines with
    | nil => rfl
    | cons line rest ih =>
        have here : readLine holds name keywords ⟨false, found⟩ line = ⟨false, found⟩ := by
          cases parsed : parseLine line with
          | none => simp only [readLine, parsed]
          | some pair =>
              obtain ⟨host, criteria, -⟩ := inside line List.mem_cons_self _ _ parsed
              rw [readLine_setting _ parsed ⟨host, criteria⟩, if_neg (by simp)]
        rw [readLines, List.foldl_cons, here]
        exact ih fun line member => inside line (List.mem_cons_of_mem _ member)
  rw [readLines, List.foldl_cons]
  simp only [readLine, starts, if_true, differs]
  exact skipped s.found lines inside

/-- **The first section for the host that has a setting of the kind decides it.** -/
theorem setting_section (behind : List Text) {front body : List Text} {header pattern line keyword argument : Text}
    (unset : (readLines holds name keywords ⟨true, none⟩ front).found = none)
    (starts : parseLine header = some ("host".toList, pattern))
    (concerns : hostMatches name (words pattern) = true)
    (other : ∀ line ∈ body, Other keywords line)
    (set : parseLine line = some (keyword, argument)) (member : keyword ∈ keywords)
    (plain : keyword ≠ "host".toList ∧ keyword ≠ "match".toList) :
    setting holds name keywords (front ++ header :: (body ++ line :: behind)) =
      some (keyword, argument) := by
  rw [setting, readLines_append]
  cases here : readLines holds name keywords ⟨true, none⟩ front with
  | mk active found =>
      rw [here] at unset
      obtain rfl : found = none := unset
      have entered : readLine holds name keywords ⟨active, none⟩ header = ⟨true, none⟩ := by
        simp [readLine, starts, concerns]
      have taken : readLine holds name keywords ⟨true, none⟩ line =
          ⟨true, some (keyword, argument)⟩ := by
        rw [readLine_setting _ set plain, if_pos (by simp [member])]
      have first : readLines holds name keywords ⟨active, none⟩ (header :: (body ++ line :: behind)) =
          readLines holds name keywords ⟨true, some (keyword, argument)⟩ behind := by
        rw [readLines, List.foldl_cons, entered]
        show readLines holds name keywords ⟨true, none⟩ (body ++ line :: behind) = _
        rw [readLines_append, pass_other _ other, readLines, List.foldl_cons, taken]
        rfl
      rw [first]
      exact readLines_found _ rfl behind

end

end RustSsh.Theory.SshConfig
