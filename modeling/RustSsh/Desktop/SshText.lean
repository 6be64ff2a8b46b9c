/-
# Desktop.SshText -- the text of the managed SSH block

`ssh_host_block`, `shell_double_quote`, `normalize_line_endings`, `split_host_blocks` and
the text `update_managed_ssh_config` computes, of `src/desktop.rs`.  `windows` is
`cfg!(windows)`.
-/
import RustSsh.Theory.Text

namespace RustSsh.Desktop

open RustSsh.Theory

set_option autoImplicit false

def managedSshBegin : Text := "# >>> rust-ssh managed begin >>>".toList
def managedSshEnd : Text := "# <<< rust-ssh managed end <<<".toList

/-! ## The source's functions -/

def normalizeLineEndings (text : Text) : Text :=
  (text.replace ['\r', '\n'] ['\n']).replace ['\r'] ['\n']

def shellDoubleQuote (windows : Bool) (value : Text) : Text :=
  if windows then ['"'] ++ value.replace ['"'] ['"', '"'] ++ ['"']
  else
    ['"'] ++ (value.flatMap fun c =>
      if c = '"' ∨ c = '\\' ∨ c = '$' ∨ c = Char.ofNat 96 then ['\\', c] else [c]) ++ ['"']

/-- What a block is made of. -/
structure HostEntry where
  host : Text
  deviceId : Text
  user : Text
  executable : Text
  setupCodePath : Text
  deriving DecidableEq, Repr

/-- The lines `ssh_host_block` joins. -/
def HostEntry.lines (windows : Bool) (e : HostEntry) : List Text :=
  ["Host ".toList ++ e.host,
   "\tHostName rust-ssh-proxy".toList,
   "\tHostKeyAlias ".toList ++ e.deviceId,
   "\tUser ".toList ++ e.user,
   "\tControlMaster no".toList,
   "\tControlPersist no".toList,
   "\tControlPath none".toList,
   "\tProxyCommand ".toList ++ shellDoubleQuote windows e.executable ++
     " --proxy --setup-code-file ".toList ++ shellDoubleQuote windows e.setupCodePath ++
     " --target ".toList ++ shellDoubleQuote windows e.deviceId]

def lineEnding (windows : Bool) : Text := if windows then ['\r', '\n'] else ['\n']

def sshHostBlock (windows : Bool) (e : HostEntry) : Text :=
  (lineEnding windows).intercalate (e.lines windows) ++ lineEnding windows

/-- The loop of `split_host_blocks`, with the lines of the block begun. -/
def splitFrom : List Text → List Text → List Text
  | current, [] => if current = [] then [] else [Text.unpieces current]
  | current, line :: rest =>
      if "Host ".toList.isPrefixOf line ∧ current ≠ [] then
        Text.unpieces current :: (if Text.blank line then splitFrom [] rest else splitFrom [line] rest)
      else if Text.blank line ∧ current = [] then splitFrom current rest
      else splitFrom (current ++ [line]) rest

def splitHostBlocks (text : Text) : List Text := splitFrom [] text.lines

/-- `block.lines().next()` names the host. -/
def sameHost (host block : Text) : Bool :=
  match block.lines.head? with
  | some line =>
      "Host ".toList.isPrefixOf line && Text.trim (line.drop 5) == host
  | none => false

/-- Some line of the block is the key alias of the device. -/
def sameDevice (deviceId block : Text) : Bool :=
  block.lines.any fun line => line.trim == "HostKeyAlias ".toList ++ deviceId

def incompleteBlock : String := "已有 rust-ssh SSH 配置块不完整"

/-- The text `update_managed_ssh_config` writes over `existing`. -/
def updatedConfig (windows : Bool) (existing hostBlock deviceId host : Text) : Except String Text :=
  let existing := normalizeLineEndings existing
  let hostBlock := (normalizeLineEndings hostBlock).trimEnd
  let updated : Except String Text :=
    match existing.find managedSshBegin with
    | some start =>
        let afterBegin := existing.drop (start + managedSshBegin.length)
        match Text.find afterBegin managedSshEnd with
        | none => .error incompleteBlock
        | some endOffset =>
            let blocks := (splitHostBlocks (afterBegin.take endOffset)).filter fun block =>
              !sameHost host block && !sameDevice deviceId block
            let managed := managedSshBegin ++ ['\n'] ++
              ['\n', '\n'].intercalate (blocks ++ [hostBlock]) ++ ['\n'] ++ managedSshEnd ++ ['\n']
            let stop := start + managedSshBegin.length + endOffset + managedSshEnd.length
            .ok (existing.take start ++ managed ++ existing.drop stop)
    | none =>
        let managed := managedSshBegin ++ ['\n'] ++ hostBlock ++ ['\n'] ++ managedSshEnd ++ ['\n']
        let kept := existing.trimEnd
        .ok ((if kept = [] then [] else kept ++ ['\n', '\n']) ++ managed)
  updated.map fun text => if windows then text.replace ['\n'] ['\r', '\n'] else text

/-! ## Line endings -/

theorem normalize_crlf (t : Text) :
    normalizeLineEndings ('\r' :: '\n' :: t) = '\n' :: normalizeLineEndings t := by
  have here := Text.replace_here ['\r', '\n'] ['\n'] t (by simp)
  simp only [List.cons_append, List.nil_append] at here
  rw [normalizeLineEndings, here, Text.replace_other _ (by simp)]
  rfl

theorem normalize_cons {c : Char} {t : Text} (single : ¬ ['\r', '\n'] <+: c :: t) :
    normalizeLineEndings (c :: t) = (if c = '\r' then '\n' else c) :: normalizeLineEndings t := by
  rw [normalizeLineEndings, Text.replace_other _ single, Text.replace_char, List.flatMap_cons]
  rw [normalizeLineEndings, Text.replace_char]
  by_cases carriage : c = '\r'
  · simp [carriage]
  · simp [carriage]

/-- A text is empty, or starts with a `\r\n`, or with another character. -/
theorem line_ending_induction {P : Text → Prop} (empty : P [])
    (crlf : ∀ t, P t → P ('\r' :: '\n' :: t))
    (other : ∀ c t, ¬ ['\r', '\n'] <+: c :: t → P t → P (c :: t)) (t : Text) : P t := by
  induction length : t.length using Nat.strong_induction_on generalizing t with
  | _ n ih =>
      cases t with
      | nil => exact empty
      | cons c t =>
          by_cases starts : ['\r', '\n'] <+: c :: t
          · obtain ⟨rest, same⟩ := starts
            rw [← same] at length ⊢
            simp only [List.cons_append, List.nil_append, List.length_cons] at length ⊢
            exact crlf rest (ih _ (by omega) rest rfl)
          · rw [List.length_cons] at length
            exact other c t starts (ih _ (by omega) t rfl)

theorem normalize_plain (t : Text) : '\r' ∉ normalizeLineEndings t := by
  induction t using line_ending_induction with
  | empty => simp [normalizeLineEndings]
  | crlf t ih => simp [normalize_crlf, ih]
  | other c t single ih =>
      rw [normalize_cons single, List.mem_cons, not_or]
      refine ⟨?_, ih⟩
      split
      · decide
      · rename_i plain
        exact Ne.symm plain

theorem normalize_of_plain {t : Text} (plain : '\r' ∉ t) : normalizeLineEndings t = t := by
  induction t with
  | nil => rfl
  | cons c t ih =>
      rw [List.mem_cons, not_or] at plain
      have single : ¬ ['\r', '\n'] <+: c :: t := by
        intro starts
        exact plain.1 (List.cons_prefix_cons.mp starts).1
      rw [normalize_cons single, ih plain.2, if_neg (Ne.symm plain.1)]

/-- A pattern within one line is where it was. -/
theorem prefix_normalize {pattern t : Text} (flat : '\n' ∉ pattern) (plain : '\r' ∉ pattern) :
    pattern <+: normalizeLineEndings t ↔ pattern <+: t := by
  induction pattern generalizing t with
  | nil => simp
  | cons d pattern ih =>
      have unlike : d ≠ '\n' ∧ d ≠ '\r' := ⟨by rintro rfl; simp at flat, by rintro rfl; simp at plain⟩
      cases t with
      | nil => simp [normalizeLineEndings]
      | cons c t =>
          by_cases starts : ['\r', '\n'] <+: c :: t
          · obtain ⟨rest, same⟩ := starts
            rw [← same]
            simp [normalize_crlf, unlike]
          · rw [normalize_cons starts, List.cons_prefix_cons, List.cons_prefix_cons,
              ih (by simp_all) (by simp_all)]
            by_cases carriage : c = '\r'
            · simp [carriage, unlike]
            · simp [carriage]

theorem occurrences_normalize {pattern : Text} (flat : '\n' ∉ pattern) (plain : '\r' ∉ pattern)
    (solid : pattern ≠ []) (t : Text) :
    (normalizeLineEndings t).occurrences pattern = t.occurrences pattern := by
  induction t using line_ending_induction with
  | empty => rfl
  | crlf t ih =>
      have no_return : ¬ pattern <+: '\r' :: '\n' :: t := Text.not_prefix_separator plain solid
      have no_newline (t : Text) : ¬ pattern <+: '\n' :: t := Text.not_prefix_separator flat solid
      simp [normalize_crlf, Text.occurrences, no_return, no_newline, ih]
  | other c t single ih =>
      have same := prefix_normalize (t := c :: t) flat plain
      rw [normalize_cons single] at same ⊢
      simp only [Text.occurrences, List.isPrefixOf_iff_prefix, same, ih]

theorem infix_normalize {pattern : Text} (flat : '\n' ∉ pattern) (plain : '\r' ∉ pattern)
    (solid : pattern ≠ []) {t : Text} :
    pattern <:+: normalizeLineEndings t ↔ pattern <:+: t := by
  induction t using line_ending_induction with
  | empty => exact Iff.rfl
  | crlf t ih =>
      have no_return : ¬ pattern <+: '\r' :: '\n' :: t := Text.not_prefix_separator plain solid
      have no_newline (t : Text) : ¬ pattern <+: '\n' :: t := Text.not_prefix_separator flat solid
      simp [normalize_crlf, List.infix_cons_iff, no_return, no_newline, ih]
  | other c t single ih =>
      have same := prefix_normalize (t := c :: t) flat plain
      rw [normalize_cons single] at same ⊢
      rw [List.infix_cons_iff, List.infix_cons_iff, same, ih]

/-- The line endings of Windows are taken off as they were put on. -/
theorem normalize_windows {t : Text} (plain : '\r' ∉ t) :
    normalizeLineEndings (t.replace ['\n'] ['\r', '\n']) = t := by
  rw [Text.replace_char]
  induction t with
  | nil => rfl
  | cons c t ih =>
      rw [List.mem_cons, not_or] at plain
      rw [List.flatMap_cons]
      by_cases newline : c = '\n'
      · simp only [newline, if_true, List.cons_append, List.nil_append, normalize_crlf]
        rw [ih plain.2]
      · have single (more : Text) : ¬ ['\r', '\n'] <+: c :: more := by
          intro starts
          exact plain.1 (List.cons_prefix_cons.mp starts).1
        simp only [newline, if_false, List.cons_append, List.nil_append]
        rw [normalize_cons (single _), if_neg (Ne.symm plain.1), ih plain.2]

/-! ## The three outcomes of a call -/

/-- A call on a text that has its managed block between `before` and `after`. -/
theorem updatedConfig_marked {windows : Bool} {text before body after hostBlock deviceId host : Text}
    (split : normalizeLineEndings text =
      before ++ managedSshBegin ++ (body ++ managedSshEnd ++ after))
    (first : Text.find (before ++ managedSshBegin ++ (body ++ managedSshEnd ++ after))
      managedSshBegin = some before.length)
    (last : Text.find (body ++ managedSshEnd ++ after) managedSshEnd = some body.length) :
    updatedConfig windows text hostBlock deviceId host =
      let blocks := (splitHostBlocks body).filter fun block =>
        !sameHost host block && !sameDevice deviceId block
      let updated : Text := before ++ (managedSshBegin ++ ['\n'] ++ ['\n', '\n'].intercalate
        (blocks ++ [(normalizeLineEndings hostBlock).trimEnd]) ++ ['\n'] ++ managedSshEnd ++ ['\n']) ++
        after
      .ok (if windows then updated.replace ['\n'] ['\r', '\n'] else updated) := by
  have behind : (before ++ managedSshBegin ++ (body ++ managedSshEnd ++ after)).drop
      (before.length + managedSshBegin.length) = body ++ managedSshEnd ++ after := by
    rw [← List.length_append, List.drop_left]
  have inside : (body ++ managedSshEnd ++ after).take body.length = body := by
    rw [List.append_assoc, List.take_left]
  have front : (before ++ managedSshBegin ++ (body ++ managedSshEnd ++ after)).take before.length =
      before := by
    rw [List.append_assoc, List.take_left]
  have rest : (before ++ managedSshBegin ++ (body ++ managedSshEnd ++ after)).drop
      (before.length + managedSshBegin.length + body.length + managedSshEnd.length) = after := by
    rw [Nat.add_assoc (_ + _), ← List.drop_drop, behind, ← List.length_append, List.drop_left]
  simp only [updatedConfig, split, first, behind, last, inside, front, rest]
  rfl

/-- A call on a text without a managed block. -/
theorem updatedConfig_unmarked {windows : Bool} {text hostBlock deviceId host : Text}
    (absent : Text.find (normalizeLineEndings text) managedSshBegin = none) :
    updatedConfig windows text hostBlock deviceId host =
      let kept := (normalizeLineEndings text).trimEnd
      let updated : Text := (if kept = [] then [] else kept ++ ['\n', '\n']) ++ (managedSshBegin ++ ['\n'] ++
        (normalizeLineEndings hostBlock).trimEnd ++ ['\n'] ++ managedSshEnd ++ ['\n'])
      .ok (if windows then updated.replace ['\n'] ['\r', '\n'] else updated) := by
  simp only [updatedConfig, absent]
  rfl

theorem updatedConfig_incomplete {windows : Bool} {text hostBlock deviceId host : Text} {start : Nat}
    (first : (normalizeLineEndings text).find managedSshBegin = some start)
    (none : Text.find ((normalizeLineEndings text).drop (start + managedSshBegin.length))
      managedSshEnd = .none) :
    updatedConfig windows text hostBlock deviceId host = .error incompleteBlock := by
  simp only [updatedConfig, first, none]
  rfl

/-- Where the two markers are found the text has what `updatedConfig_marked` asks for. -/
theorem marked_split {text : Text} {start endOffset : Nat}
    (first : (normalizeLineEndings text).find managedSshBegin = some start)
    (last : Text.find ((normalizeLineEndings text).drop (start + managedSshBegin.length))
      managedSshEnd = some endOffset) :
    ∃ before body after, normalizeLineEndings text =
        before ++ managedSshBegin ++ (body ++ managedSshEnd ++ after) ∧
      before.length = start ∧ body.length = endOffset ∧
      (normalizeLineEndings text).drop (start + managedSshBegin.length) =
        body ++ managedSshEnd ++ after := by
  obtain ⟨⟨rest, starts⟩, fits, -⟩ := Text.find_some first
  have behind : (normalizeLineEndings text).drop (start + managedSshBegin.length) = rest := by
    rw [← List.drop_drop, ← starts, List.drop_left]
  rw [behind] at last ⊢
  obtain ⟨⟨after, stops⟩, inner, -⟩ := Text.find_some last
  refine ⟨(normalizeLineEndings text).take start, rest.take endOffset, after, ?_, ?_, ?_, ?_⟩
  · rw [List.append_assoc (rest.take endOffset), stops, List.take_append_drop, List.append_assoc,
      starts, List.take_append_drop]
  · rw [List.length_take]
    omega
  · rw [List.length_take]
    omega
  · rw [List.append_assoc, stops, List.take_append_drop]

/-- A call that returns a text found no begin marker, or both markers. -/
theorem updatedConfig_cases {windows : Bool} {text hostBlock deviceId host updated : Text}
    (done : updatedConfig windows text hostBlock deviceId host = .ok updated) :
    Text.find (normalizeLineEndings text) managedSshBegin = none ∨
      ∃ before body after, normalizeLineEndings text =
          before ++ managedSshBegin ++ (body ++ managedSshEnd ++ after) ∧
        Text.find (before ++ managedSshBegin ++ (body ++ managedSshEnd ++ after))
          managedSshBegin = some before.length ∧
        Text.find (body ++ managedSshEnd ++ after) managedSshEnd = some body.length := by
  cases first : (normalizeLineEndings text).find managedSshBegin with
  | none => exact .inl rfl
  | some start =>
      cases last : Text.find ((normalizeLineEndings text).drop (start + managedSshBegin.length))
        managedSshEnd with
      | none =>
          rw [updatedConfig_incomplete first last] at done
          cases done
      | some endOffset =>
          obtain ⟨before, body, after, split, rfl, rfl, behind⟩ := marked_split first last
          rw [split] at first
          rw [behind] at last
          exact .inr ⟨before, body, after, split, first, last⟩

end RustSsh.Desktop
