/-
# Desktop.ProxyCommand -- the command a generated block runs

`ssh` takes the ProxyCommand of a block, substitutes its tokens and has a shell run the rest
(`proxyWords`).  `shell_double_quote` is made for the shell only: whatever the two paths
contain, the shell reads them back (`splitWords_commandLine`).  A percent sign is read before
that, as a token, so the words are the intended ones exactly if no path has one
(`proxy_command`).
-/
import RustSsh.Theory.Shell
import RustSsh.Desktop.HostAlias

namespace RustSsh.Desktop

open RustSsh.Theory RustSsh.Protocol

set_option autoImplicit false

/-! ## What ssh runs -/

/-- The value of a line of the configuration that has this keyword. -/
def directive (keyword line : Text) : Option Text :=
  let line := line.trimStart
  if (keyword ++ [' ']).isPrefixOf line then some (line.drop (keyword.length + 1)) else none

/-- The first value counts. -/
def proxyCommand (block : Text) : Option Text :=
  block.lines.findSome? (directive "ProxyCommand".toList)

/-- The words of the command that a block runs. -/
def proxyWords (token : Char → Option Text) (block : Text) : Option (List Text) :=
  (proxyCommand block).bind fun value =>
    (Shell.percentExpand token value).bind Shell.splitWords

/-- The words a block is meant to run. -/
def HostEntry.command (e : HostEntry) : List Text :=
  [e.executable, "--proxy".toList, "--setup-code-file".toList, e.setupCodePath,
    "--target".toList, e.deviceId]

/-! ## The command line -/

/-- The text behind the keyword. -/
def commandLine (executable setupCodePath deviceId : Text) : Text :=
  [' '].intercalate
    [Shell.doubleQuoted executable, "--proxy".toList, "--setup-code-file".toList,
      Shell.doubleQuoted setupCodePath, "--target".toList, Shell.doubleQuoted deviceId]

theorem escapeChar_eq (c : Char) : Shell.escapeChar c = quoteChar false c := by
  simp [Shell.escapeChar, Shell.special, quoteChar, or_assoc]

/-- Off Windows `shell_double_quote` quotes for a shell. -/
theorem shellDoubleQuote_shell (value : Text) :
    shellDoubleQuote false value = Shell.doubleQuoted value := by
  have same : Shell.escapeChar = quoteChar false := funext escapeChar_eq
  rw [shellDoubleQuote_eq, Shell.doubleQuoted, Shell.escape, same]

theorem reads_shellDoubleQuote (value : Text) : Shell.Reads (shellDoubleQuote false value) value := by
  rw [shellDoubleQuote_shell]
  exact Shell.reads_doubleQuoted value

/-- Each quoted text is read as the word it quotes. -/
theorem reads_quoted (values : List Text) :
    List.Forall₂ Shell.Reads (values.map (shellDoubleQuote false)) values := by
  induction values with
  | nil => exact .nil
  | cons value rest ih => exact .cons (reads_shellDoubleQuote value) ih

/-- **What is quoted for a shell is read back by it**: as one word behind any others, and a list
with a blank between each two as that list. -/
theorem shell_quoting_round_trip :
    (∀ value : Text, Shell.Reads (shellDoubleQuote false value) value ∧
      Shell.splitWords (shellDoubleQuote false value) = some [value]) ∧
    ∀ values : List Text,
      Shell.splitWords ([' '].intercalate (values.map (shellDoubleQuote false))) = some values := by
  have list (values : List Text) :
      Shell.splitWords ([' '].intercalate (values.map (shellDoubleQuote false))) = some values := by
    apply Shell.splitWords_intercalate
    exact reads_quoted values
  refine ⟨fun value => ⟨reads_shellDoubleQuote value, ?_⟩, list⟩
  have single := list [value]
  rwa [List.map_singleton, List.intercalate_singleton] at single

/-- **The shell reads six words back, whatever is quoted.** -/
theorem splitWords_commandLine (executable setupCodePath deviceId : Text) :
    Shell.splitWords (commandLine executable setupCodePath deviceId) =
      some [executable, "--proxy".toList, "--setup-code-file".toList, setupCodePath,
        "--target".toList, deviceId] := by
  have option (t : Text) (nonempty : t ≠ [])
      (plain : (t.all fun c => !Shell.isBlank c && !Shell.isMeta c) = true) : Shell.Reads t t := by
    apply Shell.reads_bare nonempty
    intro c inside
    simpa using List.all_eq_true.mp plain c inside
  apply Shell.splitWords_intercalate
  refine .cons (Shell.reads_doubleQuoted _) (.cons ?_ (.cons ?_
    (.cons (Shell.reads_doubleQuoted _) (.cons ?_ (.cons (Shell.reads_doubleQuoted _) .nil)))))
  · exact option _ (by decide) (by decide)
  · exact option _ (by decide) (by decide)
  · exact option _ (by decide) (by decide)

theorem commandLine_eq (executable setupCodePath deviceId : Text) :
    commandLine executable setupCodePath deviceId =
      '"' :: (Shell.escape executable ++ '"' :: (" --proxy --setup-code-file \"".toList ++
        (Shell.escape setupCodePath ++ '"' :: (" --target ".toList ++
          Shell.doubleQuoted deviceId)))) := by
  simp [commandLine, Shell.doubleQuoted, List.intercalate, List.intersperse]

theorem directive_proxyCommand (value : Text) :
    directive "ProxyCommand".toList ("\tProxyCommand ".toList ++ value) = some value := rfl

/-- The last line of a block. -/
theorem commandLine_line (executable setupCodePath deviceId : Text) :
    "\tProxyCommand ".toList ++ shellDoubleQuote false executable ++
      " --proxy --setup-code-file ".toList ++ shellDoubleQuote false setupCodePath ++
      " --target ".toList ++ shellDoubleQuote false deviceId =
    "\tProxyCommand ".toList ++ commandLine executable setupCodePath deviceId := by
  simp [shellDoubleQuote_shell, commandLine_eq, Shell.doubleQuoted]

/-- Tokens with plain values are substituted path by path. -/
theorem percentExpand_commandLine {token : Char → Option Text} (plain : Shell.PlainTokens token)
    (executable setupCodePath : Text) {deviceId : Text} (free : '%' ∉ deviceId) :
    Shell.percentExpand token (commandLine executable setupCodePath deviceId) =
      (Shell.percentExpand token executable).bind fun executable =>
        (Shell.percentExpand token setupCodePath).map fun setupCodePath =>
          commandLine executable setupCodePath deviceId := by
  have unescaped := Shell.not_mem_doubleQuoted free (by decide) (by decide)
  have last : Shell.percentExpand token (" --target ".toList ++ Shell.doubleQuoted deviceId) =
      some (" --target ".toList ++ Shell.doubleQuoted deviceId) := by
    apply Shell.percentExpand_plain
    rw [List.mem_append, not_or]
    exact ⟨by decide, unescaped⟩
  rw [commandLine_eq, Shell.percentExpand_cons (by decide), Shell.percentExpand_escape plain,
    Shell.percentExpand_append (by decide), Shell.percentExpand_escape plain, last]
  cases Shell.percentExpand token executable with
  | none => rfl
  | some executable =>
      cases Shell.percentExpand token setupCodePath with
      | none => rfl
      | some setupCodePath =>
          simp only [Option.bind_some, Option.map_some, commandLine_eq]

/-! ## The block -/

/-- The tokens of a ProxyCommand, for a connection to the host of the block: `%h` is its
HostName, `%n` the name it was asked for by. -/
def connectionTokens (e : HostEntry) (port : Text) (key : Char) : Option Text :=
  [('h', "rust-ssh-proxy".toList), ('n', e.host), ('p', port), ('r', e.user)].lookup key

/-- What `install_ssh_host` has checked, and two paths without line breaks. -/
structure HostEntry.Proxied (e : HostEntry) : Prop where
  host : validHostAlias e.host = true
  deviceId : DeviceId.isValid (String.ofList e.deviceId) = true
  user : validateSshUser e.user = .ok ()
  executable : '\n' ∉ e.executable
  setupCodePath : '\n' ∉ e.setupCodePath

theorem installEntry_proxied {env : InstallEnv} {settings : ConnectSettings} {deviceId : Text}
    {entry : HostEntry} (made : installEntry env settings deviceId = .ok entry)
    (executable : '\n' ∉ entry.executable) (setupCodePath : '\n' ∉ entry.setupCodePath) :
    entry.Proxied := by
  obtain ⟨-, -, valid, host, user⟩ := installEntry_ok made
  exact ⟨host, valid, user, executable, setupCodePath⟩

/-- A line without a line break in it, and without one that could be taken for its end. -/
def OneLine (l : Text) : Prop := '\n' ∉ l ∧ Text.stripReturn l = l

theorem oneLine_solid {name t : Text} (fixed : '\n' ∉ name ∧ '\r' ∉ name)
    (solid : ∀ c ∈ t, Text.isWhitespace c = false) : OneLine (name ++ t) := by
  have flat : '\n' ∉ t := fun inside => absurd (solid _ inside) (by decide)
  have noReturn : '\r' ∉ t := fun inside => absurd (solid _ inside) (by decide)
  refine ⟨?_, Text.stripReturn_eq ?_⟩
  · rw [List.mem_append, not_or]
    exact ⟨fixed.1, flat⟩
  · rw [List.mem_append, not_or]
    exact ⟨fixed.2, noReturn⟩

/-- A character that is in none of the words is not in the command line either. -/
theorem not_mem_commandLine {executable setupCodePath deviceId : Text} {c : Char}
    (separators : c ∉ [' ', '"', '\\'])
    (fixed : ∀ t ∈ ["--proxy".toList, "--setup-code-file".toList, "--target".toList], c ∉ t)
    (first : c ∉ executable) (second : c ∉ setupCodePath) (third : c ∉ deviceId) :
    c ∉ commandLine executable setupCodePath deviceId := by
  simp only [List.mem_cons, List.not_mem_nil, or_false, not_or] at separators
  obtain ⟨blank, quote, backslash⟩ := separators
  intro inside
  cases Text.mem_intercalate inside with
  | inl separator => exact blank (List.mem_singleton.mp separator)
  | inr other =>
      obtain ⟨t, member, there⟩ := other
      simp only [List.mem_cons, List.not_mem_nil, or_false] at member
      rcases member with rfl | rfl | rfl | rfl | rfl | rfl
      · exact Shell.not_mem_doubleQuoted first backslash quote there
      · exact fixed _ (by simp) there
      · exact fixed _ (by simp) there
      · exact Shell.not_mem_doubleQuoted second backslash quote there
      · exact fixed _ (by simp) there
      · exact Shell.not_mem_doubleQuoted third backslash quote there

namespace HostEntry.Proxied

variable {e : HostEntry}

theorem deviceId_solid (proxied : e.Proxied) : ∀ c ∈ e.deviceId, Text.isWhitespace c = false :=
  fun c inside => DeviceId.allowedChar_not_whitespace
    ((DeviceId.isValid_ofList.mp proxied.deviceId).2.2 c inside)

theorem lines_oneLine (proxied : e.Proxied) : ∀ l ∈ e.lines false, OneLine l := by
  have host : ∀ c ∈ e.host, Text.isWhitespace c = false := by
    have host := proxied.host
    simp only [validHostAlias, Bool.and_eq_true, List.all_eq_true] at host
    exact fun c inside => DeviceId.allowedChar_not_whitespace (host.2 c inside)
  have command : OneLine ("\tProxyCommand ".toList ++
      commandLine e.executable e.setupCodePath e.deviceId) := by
    have device : '\n' ∉ e.deviceId := fun inside =>
      absurd (proxied.deviceId_solid _ inside) (by decide)
    have flat := not_mem_commandLine (by decide) (by decide) proxied.executable
      proxied.setupCodePath device
    have last : ("\tProxyCommand ".toList ++
        commandLine e.executable e.setupCodePath e.deviceId).getLast? = some '"' := by
      rw [← commandLine_line, shellDoubleQuote_shell e.deviceId]
      exact Shell.getLast?_doubleQuoted _ _
    refine ⟨?_, ?_⟩
    · rw [List.mem_append, not_or]
      exact ⟨by decide, flat⟩
    · rw [Text.stripReturn, last]
      rfl
  intro l member
  rw [HostEntry.lines, commandLine_line] at member
  simp only [List.mem_cons, List.not_mem_nil, or_false] at member
  have fixed {name : Text} (plain : '\n' ∉ name ∧ '\r' ∉ name) : OneLine name :=
    ⟨plain.1, Text.stripReturn_eq plain.2⟩
  rcases member with rfl | rfl | rfl | rfl | rfl | rfl | rfl | rfl
  · exact oneLine_solid (by decide) host
  · exact fixed (by decide)
  · exact oneLine_solid (by decide) proxied.deviceId_solid
  · exact oneLine_solid (by decide) (validateSshUser_solid proxied.user)
  · exact fixed (by decide)
  · exact fixed (by decide)
  · exact fixed (by decide)
  · exact command

/-- The lines of the block are read back. -/
theorem lines_block (proxied : e.Proxied) : (sshHostBlock false e).lines = e.lines false := by
  have oneLine := proxied.lines_oneLine
  have whole : sshHostBlock false e = Text.unpieces (e.lines false ++ [[]]) := by
    rw [Text.unpieces_append (lines_ne_nil false e) (by simp), Text.unpieces_singleton]
    rfl
  have flat : ∀ l ∈ e.lines false ++ [[]], '\n' ∉ l := by
    intro l member
    cases List.mem_append.mp member with
    | inl line => exact (oneLine l line).1
    | inr last => simp [List.mem_singleton.mp last]
  have kept : (e.lines false).map Text.stripReturn = e.lines false := by
    calc (e.lines false).map Text.stripReturn
        = (e.lines false).map id := List.map_congr_left fun l member => (oneLine l member).2
      _ = e.lines false := List.map_id _
  rw [whole, Text.lines, Text.pieces_unpieces (by simp) flat]
  simp [kept]

/-- The ProxyCommand of a block is its command line. -/
theorem proxyCommand_block (proxied : e.Proxied) :
    proxyCommand (sshHostBlock false e) =
      some (commandLine e.executable e.setupCodePath e.deviceId) := by
  have host : directive "ProxyCommand".toList ("Host ".toList ++ e.host) = none := rfl
  have key : directive "ProxyCommand".toList ("\tHostKeyAlias ".toList ++ e.deviceId) = none := rfl
  have user : directive "ProxyCommand".toList ("\tUser ".toList ++ e.user) = none := rfl
  have name : directive "ProxyCommand".toList "\tHostName rust-ssh-proxy".toList = none := rfl
  have master : directive "ProxyCommand".toList "\tControlMaster no".toList = none := rfl
  have persist : directive "ProxyCommand".toList "\tControlPersist no".toList = none := rfl
  have path : directive "ProxyCommand".toList "\tControlPath none".toList = none := rfl
  rw [proxyCommand, proxied.lines_block, HostEntry.lines, commandLine_line]
  simp only [List.findSome?_cons, host, name, key, user, master, persist, path,
    directive_proxyCommand]

theorem proxyWords_block (proxied : e.Proxied) (token : Char → Option Text) :
    proxyWords token (sshHostBlock false e) =
      (Shell.percentExpand token (commandLine e.executable e.setupCodePath e.deviceId)).bind
        Shell.splitWords := by
  rw [proxyWords, proxied.proxyCommand_block]
  rfl

theorem deviceId_free (proxied : e.Proxied) : '%' ∉ e.deviceId := by
  intro inside
  exact absurd ((DeviceId.isValid_ofList.mp proxied.deviceId).2.2 _ inside) (by decide)

/-- No percent sign comes from anywhere else. -/
theorem commandLine_free (proxied : e.Proxied)
    (free : '%' ∉ e.executable ∧ '%' ∉ e.setupCodePath) :
    '%' ∉ commandLine e.executable e.setupCodePath e.deviceId :=
  not_mem_commandLine (by decide) (by decide) free.1 free.2 proxied.deviceId_free

end HostEntry.Proxied

/-- A block of a program that is installed here, for a user with this home directory. -/
def blockAt (executable home : String) : HostEntry where
  host := "desk".toList
  deviceId := "desk".toList
  user := "ana".toList
  executable := executable.toList
  setupCodePath := home.toList ++ "/.config/rust-ssh/connect.setup".toList

/-- **A block runs the six words it is meant to run exactly if neither path has a percent
sign**: with every table of tokens if there is none, and with no plain one otherwise. -/
theorem proxy_command {e : HostEntry} (proxied : e.Proxied) :
    ((∀ token, proxyWords token (sshHostBlock false e) = some e.command) ↔
      '%' ∉ e.executable ∧ '%' ∉ e.setupCodePath) ∧
    ∀ token, Shell.PlainTokens token → (∀ key value, token key = some value → '%' ∉ value) →
      (proxyWords token (sshHostBlock false e) = some e.command ↔
        '%' ∉ e.executable ∧ '%' ∉ e.setupCodePath) := by
  have enough (token : Char → Option Text) (free : '%' ∉ e.executable ∧ '%' ∉ e.setupCodePath) :
      proxyWords token (sshHostBlock false e) = some e.command := by
    rw [proxied.proxyWords_block, Shell.percentExpand_plain (proxied.commandLine_free free)]
    exact splitWords_commandLine _ _ _
  have needed (token : Char → Option Text) (plain : Shell.PlainTokens token)
      (literal : ∀ key value, token key = some value → '%' ∉ value)
      (intended : proxyWords token (sshHostBlock false e) = some e.command) :
      '%' ∉ e.executable ∧ '%' ∉ e.setupCodePath := by
    rw [proxied.proxyWords_block, percentExpand_commandLine plain _ _ proxied.deviceId_free]
      at intended
    cases first : Shell.percentExpand token e.executable with
    | none => simp [first] at intended
    | some executable =>
        cases second : Shell.percentExpand token e.setupCodePath with
        | none => simp [first, second] at intended
        | some setupCodePath =>
            simp only [first, second, Option.bind_some, Option.map_some,
              splitWords_commandLine, HostEntry.command, Option.some.injEq, List.cons.injEq,
              true_and, and_true] at intended
            obtain ⟨rfl, rfl⟩ := intended
            exact ⟨(Shell.percentExpand_fixed literal).mp first,
              (Shell.percentExpand_fixed literal).mp second⟩
  refine ⟨⟨fun always => ?_, fun free token => enough token free⟩, fun token plain literal =>
    ⟨needed token plain literal, enough token⟩⟩
  -- without tokens no percent sign survives
  have noKey (key : Char) (value : Text) : (none : Option Text) ≠ some value := by simp
  exact needed (fun _ => none) ⟨fun key value found => absurd found (noKey key value),
    fun key value found => absurd found (noKey key value)⟩
    (fun key value found => absurd found (noKey key value)) (always _)

theorem proxy_command_spaces :
    proxyWords (connectionTokens (blockAt "/opt/rust ssh/$x\"connect" "/home/ana") "22".toList)
        (sshHostBlock false (blockAt "/opt/rust ssh/$x\"connect" "/home/ana")) =
      some (blockAt "/opt/rust ssh/$x\"connect" "/home/ana").command :=
  (proxy_command ⟨by decide, by decide, rfl, by decide, by decide⟩).1.mpr (by decide) _

/-- In a home directory with a percent sign the command is an error, or names another file. -/
theorem proxy_command_percent :
    (blockAt "/opt/rust-ssh-connect" "/home/100%").Proxied ∧
      proxyWords (connectionTokens (blockAt "/opt/rust-ssh-connect" "/home/100%") "22".toList)
          (sshHostBlock false (blockAt "/opt/rust-ssh-connect" "/home/100%")) = none ∧
      (blockAt "/opt/rust-ssh-connect" "/home/%%").Proxied ∧
      proxyWords (connectionTokens (blockAt "/opt/rust-ssh-connect" "/home/%%") "22".toList)
          (sshHostBlock false (blockAt "/opt/rust-ssh-connect" "/home/%%")) =
        some (blockAt "/opt/rust-ssh-connect" "/home/%").command := by
  refine ⟨⟨by decide, by decide, rfl, by decide, by decide⟩, ?_,
    ⟨by decide, by decide, rfl, by decide, by decide⟩, ?_⟩
  · decide +kernel
  · decide +kernel

end RustSsh.Desktop
