import OmpMySQL.ConfigFile
import OmpMySQL.Connections

/-! How a script connects: the options come from a set or a file, the connection is
opened with them, and it is registered once it is known to be encrypted. -/

namespace OmpMySQL
open Library

/-- The calls of `mysql_options` that the built client library has. -/
inductive MysqlOption where
  | connectTimeout (seconds : Nat)
  | readTimeout (seconds : Nat)
  | writeTimeout (seconds : Nat)
  | setCharsetName (name : String)
  | tlsVersion (versions : String)
  | sslKey (path : String)
  | sslCert (path : String)
  | sslCA (path : String)
  | sslCAPath (path : String)
  | sslCipher (ciphers : String)
  | sslEnforce (enforce : Bool)
  | sslVerifyServerCert (verify : Bool)
  deriving DecidableEq, Repr

/-- What `mysql_real_connect` is called with, and the options set before. -/
structure ConnectionAttempt where
  options : List MysqlOption
  host : String
  user : String
  password : String
  database : Option String
  port : Nat
  multiStatements : Bool
  deriving DecidableEq, Repr

namespace ConnectionOptions

def effectiveSSLMode (o : ConnectionOptions) : SSLMode :=
  if o.sslCA ≠ "" ∨ o.sslCAPath ≠ "" then
    if o.sslMode = .verifyIdentity then .verifyIdentity else .verifyCA
  else o.sslMode

/-- What `Connection::open` asks of the client library. The parts that depend on an
option being a macro are not compiled: the library has an enumeration of them. -/
def attempt (o : ConnectionOptions) : ConnectionAttempt :=
  let timeout (seconds : Nat) (option : MysqlOption) : List MysqlOption := if 0 < seconds then [option] else []
  let text (value : String) (option : MysqlOption) : List MysqlOption := if value ≠ "" then [option] else []
  { options :=
      timeout o.connectTimeout (.connectTimeout o.connectTimeout) ++
      timeout o.readTimeout (.readTimeout o.readTimeout) ++
      timeout o.writeTimeout (.writeTimeout o.writeTimeout) ++
      [.setCharsetName "utf8mb4"] ++
      text o.tlsVersion (.tlsVersion (cString o.tlsVersion)) ++
      text o.sslKey (.sslKey (cString o.sslKey)) ++
      text o.sslCert (.sslCert (cString o.sslCert)) ++
      text o.sslCA (.sslCA (cString o.sslCA)) ++
      text o.sslCAPath (.sslCAPath (cString o.sslCAPath)) ++
      text o.sslCipher (.sslCipher (cString o.sslCipher)) ++
      [.sslEnforce true, .sslVerifyServerCert (o.effectiveSSLMode = .verifyCA || o.effectiveSSLMode = .verifyIdentity)]
    host := cString o.host
    user := cString o.user
    password := cString o.password
    database := if o.database = "" then none else some (cString o.database)
    port := o.port
    multiStatements := o.multiStatements }

end ConnectionOptions

/-- The server's answer to a statement that asks for a status variable. -/
inductive StatusReply where
  | rejected
  | noResult
  | rows (rows : List (List (Option String)))
  deriving DecidableEq, Repr

/-- How the client library fares with one connection. -/
structure ConnectReply where
  init : Bool := true
  realConnect : Bool := true
  clientCipher : Option String
  status : String → StatusReply

namespace ConnectReply

/-- `Connection::open` succeeds. -/
def opens (reply : ConnectReply) : Bool := reply.init && reply.realConnect

/-- The bytes that the fallback of `sslCipher` sends: the text with its stated length. -/
def cipherQuery : String := String.ofList ("SHOW SESSION STATUS LIKE 'Ssl_cipher'".toList.take 36)

def serverCipher (reply : ConnectReply) : String :=
  match reply.status cipherQuery with
  | .rows ((_ :: some value :: _) :: _) => cString value
  | _ => ""

/-- `Connection::sslCipher` on an open connection. -/
def sslCipher (reply : ConnectReply) : String :=
  let cipher := reply.clientCipher.getD ""
  if cipher ≠ "" then cipher else reply.serverCipher

end ConnectReply

/-- `DoConnect`. The new connection is known by a number. -/
def doConnect (registry : Connections) (raw : Nat) (opts : ConnectionOptions) (reply : ConnectReply) :
    Connections × Int :=
  if reply.opens = false then (registry, 0)
  else if reply.sslCipher = "" then (registry, 0)
  else registry.addConnection (some raw) opts.multiStatements

/-- The options `mysql_connect` connects with. -/
def connectOptions (sets : OptionSets) (env : Environment) (host user password database : String) (options : Int) :
    ConnectionOptions :=
  let inherited := if options ≠ 0 then (sets.getOptions options).getD {} else {}
  { inherited with
    host := expandEnv env host
    user := expandEnv env user
    password := expandEnv env password
    database := expandEnv env database }

def connect (registry : Connections) (raw : Nat) (sets : OptionSets) (env : Environment)
    (host user password database : String) (options : Int) (reply : ConnectReply) : Connections × Int :=
  doConnect registry raw (connectOptions sets env host user password database options) reply

end OmpMySQL
