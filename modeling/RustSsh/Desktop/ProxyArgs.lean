/-
# Desktop.ProxyArgs -- `rust-ssh-connect` as a ProxyCommand

`src/bin/rust-ssh-connect.rs`: with `--proxy` among its arguments the program is no window but the
ProxyCommand of `ssh`; it reads its relay from a pairing-code file, or from three options of their
own, and connects.  The arguments are read by the `clap` crate, which is a parameter.
-/
import RustSsh.Desktop.ClientSettings

namespace RustSsh.Desktop

open RustSsh.Theory RustSsh.Protocol RustSsh.Server RustSsh.Agent RustSsh.Pairing

set_option autoImplicit false

/-! ## Arguments -/

structure ProxyArgs where
  proxy : Bool
  setupCodeFile : Option Text
  server : Option Text
  serverKey : Option Text
  tokenFile : Option Text
  target : Option Text
  deriving DecidableEq, Repr

/-- An option as it is given. -/
inductive ProxyOption where
  | proxy
  | setupCodeFile (path : Text)
  | server (endpoint : Text)
  | serverKey (path : Text)
  | tokenFile (path : Text)
  | target (device : Text)
  deriving DecidableEq, Repr

namespace ProxyOption

def long : ProxyOption → String
  | .proxy => "--proxy"
  | .setupCodeFile _ => "--setup-code-file"
  | .server _ => "--server"
  | .serverKey _ => "--server-key"
  | .tokenFile _ => "--token-file"
  | .target _ => "--target"

def name (option : ProxyOption) : Text := option.long.toList

def value : ProxyOption → Option Text
  | .proxy => none
  | .setupCodeFile value | .server value | .serverKey value | .tokenFile value | .target value =>
      some value

def words (option : ProxyOption) : List Text := option.name :: option.value.toList

def set (args : ProxyArgs) : ProxyOption → ProxyArgs
  | .proxy => { args with proxy := true }
  | .setupCodeFile path => { args with setupCodeFile := some path }
  | .server endpoint => { args with server := some endpoint }
  | .serverKey path => { args with serverKey := some path }
  | .tokenFile path => { args with tokenFile := some path }
  | .target device => { args with target := some device }

end ProxyOption

def ProxyArgs.none : ProxyArgs := ⟨false, .none, .none, .none, .none, .none⟩

/-- A word that is taken for an option and not for a value. -/
def hyphenated : Text → Bool
  | '-' :: _ :: _ => true
  | _ => false

/-- No value, or one that is taken for a value. -/
def ProxyOption.Proper (option : ProxyOption) : Prop :=
  ∀ value, option.value = some value → value ≠ [] ∧ hyphenated value = false

/-- What `clap` promises of options with one value each, in words of their own. -/
structure ParsesOptions (parse : List Text → Except String ProxyArgs) : Prop where
  reads : ∀ options : List ProxyOption, (options.map ProxyOption.name).Nodup →
    (∀ option ∈ options, option.Proper) →
      parse (options.flatMap ProxyOption.words) = .ok (options.foldl ProxyOption.set .none)
  /-- an option where a value should be -/
  refuses : ∀ (options : List ProxyOption) (option : ProxyOption) (value : Text) (rest : List Text),
    ((options ++ [option]).map ProxyOption.name).Nodup → (∀ option ∈ options, option.Proper) →
      option.value = some value → hyphenated value = true →
        ∃ error, parse (options.flatMap ProxyOption.words ++ option.words ++ rest) = .error error

/-! ## The program -/

/-- `connect::Config`. -/
structure ConnectConfig where
  server : String
  serverKey : Bytes
  token : String
  target : String
  deriving DecidableEq, Repr

/-- What comes of a start of the program. -/
inductive Started where
  | window
  /-- `clap` ends the program -/
  | usage (error : String)
  | failed (error : String)
  /-- `connect::run` -/
  | connects (config : ConnectConfig)
  deriving DecidableEq, Repr

/-- `Option::context`. -/
def provided (option : Option Text) (error : String) : Except String Text :=
  match option with
  | none => .error error
  | some value => .ok value

section

variable (crates : Crates) (address : String → Option SocketAddr) (files : Text → Option Bytes)

/-- `fs::read_to_string`. -/
def readFile (path : Text) (error : String) : Except String Text :=
  match (files path).bind Text.decode with
  | none => .error error
  | some text => .ok text

def proxyConfig (args : ProxyArgs) : Except String ConnectConfig := do
  let target ← provided args.target "ProxyCommand 缺少 --target"
  match args.setupCodeFile with
  | some setupCodeFile =>
      let code ← readFile files setupCodeFile s!"读取配置码文件 {String.ofList setupCodeFile}"
      let pairing ← decode crates address (String.ofList code)
      return { server := pairing.server, serverKey := pairing.serverKey, token := pairing.token,
               target := String.ofList target : ConnectConfig }
  | none =>
      let server ← provided args.server "ProxyCommand 缺少 --server"
      let serverKeyPath ← provided args.serverKey "ProxyCommand 缺少 --server-key"
      let serverKey ← loadPublicKey crates (String.ofList serverKeyPath) (files serverKeyPath)
      let tokenFile ← provided args.tokenFile "ProxyCommand 缺少 --token-file"
      let token ← readFile files tokenFile s!"读取 token 文件 {String.ofList tokenFile}"
      return { server := String.ofList server, serverKey, token := String.ofList token.trim,
               target := String.ofList target }

/-- `run`, with the result of `Runtime::new`; the program's name is the first of its arguments. -/
def connectMain (parse : List Text → Except String ProxyArgs) (runtime : Except String Unit)
    (arguments : List Text) : Started :=
  if arguments.any (· = "--proxy".toList) then
    match parse arguments.tail with
    | .error error => .usage error
    | .ok args =>
        match proxyConfig crates address files args with
        | .error error => .failed error
        | .ok config =>
            match runtime with
            | .error _ => .failed "创建 Tokio runtime"
            | .ok () => .connects config
  else .window

end

/-! ## A program that reads its options

What is read behind `--` and options with an equals sign are left out. -/

end RustSsh.Desktop
