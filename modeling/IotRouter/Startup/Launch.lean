import IotRouter.Runtime.SocketAddr

/-!
# Startup

From the variables of the process, the `.env` file and the certificates to the
three addresses the router listens at. Startup ends early if a port is no number,
a certificate cannot be read, or a host is not an IP address: names are not
resolved.
-/

namespace IotRouter.Startup

open IotRouter.Runtime

/-- The variables that are set to some text. -/
abbrev Env := String → Option String

/-- Why startup ends early. -/
inductive Failure where
  | panic (message : String)
  | io (path : String)
  | addrParse (text : String)
  deriving DecidableEq, Repr

def okOr {α : Type} (failure : Failure) : Option α → Except Failure α
  | some value => .ok value
  | none => .error failure

/-! ## Configuration -/

namespace Env

/-- `dotenv::dotenv()`, where `file` is what the file sets: what is set already is
left alone. -/
def dotenv (env : Env) : List (String × String) → Env
  | [] => env
  | (name, value) :: file =>
      dotenv (if env name = none then Function.update env name (some value)
        else env) file

def var (env : Env) (name default : String) : String :=
  (env name).getD default

def port (env : Env) (name default : String) : Except Failure UInt16 :=
  okOr (.panic (name ++ " debe ser un número")) (parseU16 (env.var name default))

end Env

structure System where
  grpcHost : String
  grpcPortEdge : UInt16
  grpcPortServer : UInt16
  httpsHost : String
  httpsPort : UInt16
  environment : String
  rustLog : String
  deriving DecidableEq, Repr

namespace System

def rustLogDefault (environment : String) : String :=
  if environment = "development" then "debug"
  else if environment = "staging" then "info"
  else "warn"

def new (env : Env) (file : List (String × String)) : Except Failure System := do
  let environment := env.var "ENVIRONMENT" "development"
  let env := if environment = "development" then env.dotenv file else env
  let grpcPortEdge ← env.port "GRPC_PORT_EDGE" "50051"
  let grpcPortServer ← env.port "GRPC_PORT_SERVER" "50052"
  let httpsPort ← env.port "HTTPS_PORT" "8080"
  return {
    grpcHost := env.var "GRPC_HOST" "localhost"
    grpcPortEdge, grpcPortServer
    httpsHost := env.var "HTTPS_HOST" "0.0.0.0"
    httpsPort
    rustLog := env.var "RUST_LOG" (rustLogDefault environment)
    environment }

end System

/-! ## Servers -/

def caRouter : String := "/etc/certs/root.crt"
def crtRouter : String := "/etc/certs/router_fullchain.crt"
def keyRouter : String := "/etc/certs/router.key"

/-- What the servers are started with. -/
structure Launch where
  clientCaPem : String
  serverCertPem : String
  serverKeyPem : String
  addrEdge : SocketAddr
  addrServer : SocketAddr
  addrHttp : SocketAddr
  deriving DecidableEq, Repr

def readToString (files : String → Option String) (path : String) :
    Except Failure String :=
  okOr (.io path) (files path)

/-- `format!("{}:{}", host, port).parse()?` -/
def address (host : String) (port : UInt16) : Except Failure SocketAddr :=
  let text := host ++ ":" ++ port.toNat.repr
  okOr (.addrParse text) (SocketAddr.parse text)

/-- `init_server` until its servers are started. -/
def initServer (files : String → Option String) (system : System) :
    Except Failure Launch := do
  let clientCaPem ← readToString files caRouter
  let serverCertPem ← readToString files crtRouter
  let serverKeyPem ← readToString files keyRouter
  let addrEdge ← address system.grpcHost system.grpcPortEdge
  let addrServer ← address system.grpcHost system.grpcPortServer
  let addrHttp ← address system.httpsHost system.httpsPort
  return ⟨clientCaPem, serverCertPem, serverKeyPem, addrEdge, addrServer, addrHttp⟩

def main (env : Env) (file : List (String × String))
    (files : String → Option String) : Except Failure Launch := do
  let system ← System.new env file
  initServer files system

/-! ## What is configured -/

/-- A variable of the process counts before the same one of the file, and of those
of the file the first. -/
theorem Env.dotenv_apply (env : Env) (file : List (String × String))
    (name : String) : env.dotenv file name = (env name).or (file.lookup name) := by
  induction file generalizing env with
  | nil => simp [Env.dotenv]
  | cons entry file ih =>
      rcases entry with ⟨found, value⟩
      rw [Env.dotenv, ih, List.lookup_cons]
      by_cases same : name = found
      · subst same
        cases set : env name with
        | none => simp
        | some value => simp [set]
      · have other : (name == found) = false := by simpa using same
        rw [other]
        split
        · rw [Function.update_of_ne same]
        · rfl

/-- The variables that count. -/
def Env.configured (env : Env) (file : List (String × String)) : Env := fun name =>
  if env.var "ENVIRONMENT" "development" = "development" then
    (env name).or (file.lookup name)
  else env name

theorem Env.configured_eq (env : Env) (file : List (String × String)) :
    (if env.var "ENVIRONMENT" "development" = "development" then env.dotenv file
      else env) = env.configured file := by
  funext name
  rw [Env.configured]
  split
  · exact Env.dotenv_apply env file name
  · rfl

section Except

variable {α β ε : Type}

theorem bind_eq_ok {first : Except ε α} {next : α → Except ε β} {result : β} :
    (first >>= next) = .ok result ↔
      ∃ value, first = .ok value ∧ next value = .ok result := by
  cases first with
  | error failure => simp [bind, Except.bind]
  | ok value => simp [bind, Except.bind]

end Except

theorem okOr_eq_ok {α : Type} {failure : Failure} {found : Option α} {value : α} :
    okOr failure found = .ok value ↔ found = some value := by
  cases found <;> simp [okOr]

theorem Env.port_eq_ok {env : Env} {name default : String} {port : UInt16} :
    env.port name default = .ok port ↔
      parseU16 (env.var name default) = some port :=
  okOr_eq_ok

theorem readToString_eq_ok {files : String → Option String} {path text : String} :
    readToString files path = .ok text ↔ files path = some text :=
  okOr_eq_ok

/-- An address to listen at is an address already before it has a port. -/
theorem address_eq_ok {host : String} {port : UInt16} {addr : SocketAddr} :
    address host port = .ok addr ↔ addr.ip.Written host ∧ addr.port = port := by
  show okOr _ _ = _ ↔ _
  rw [okOr_eq_ok, SocketAddr.parse_host_port, ← IpAddr.ofHost_eq_some]
  cases IpAddr.ofHost host with
  | none => simp
  | some ip =>
      cases addr
      simp [eq_comm]

/-- The settings are read from the variables that count. -/
theorem System.new_eq_ok {env : Env} {file : List (String × String)}
    {system : System} :
    System.new env file = .ok system ↔
      (env.configured file).port "GRPC_PORT_EDGE" "50051" =
          .ok system.grpcPortEdge ∧
        (env.configured file).port "GRPC_PORT_SERVER" "50052" =
          .ok system.grpcPortServer ∧
        (env.configured file).port "HTTPS_PORT" "8080" = .ok system.httpsPort ∧
        system.grpcHost = (env.configured file).var "GRPC_HOST" "localhost" ∧
        system.httpsHost = (env.configured file).var "HTTPS_HOST" "0.0.0.0" ∧
        system.environment = env.var "ENVIRONMENT" "development" ∧
        system.rustLog = (env.configured file).var "RUST_LOG"
          (rustLogDefault (env.var "ENVIRONMENT" "development")) := by
  simp only [System.new, Env.configured_eq, bind_eq_ok]
  constructor
  · rintro ⟨edge, isEdge, server, isServer, https, isHttps, same⟩
    cases same
    exact ⟨isEdge, isServer, isHttps, rfl, rfl, rfl, rfl⟩
  · rcases system with ⟨grpcHost, edge, server, httpsHost, https, environment,
      rustLog⟩
    rintro ⟨isEdge, isServer, isHttps, rfl, rfl, rfl, rfl⟩
    exact ⟨edge, isEdge, server, isServer, https, isHttps, rfl⟩

theorem initServer_eq_ok {files : String → Option String} {system : System}
    {launch : Launch} :
    initServer files system = .ok launch ↔
      files caRouter = some launch.clientCaPem ∧
        files crtRouter = some launch.serverCertPem ∧
        files keyRouter = some launch.serverKeyPem ∧
        address system.grpcHost system.grpcPortEdge = .ok launch.addrEdge ∧
        address system.grpcHost system.grpcPortServer = .ok launch.addrServer ∧
        address system.httpsHost system.httpsPort = .ok launch.addrHttp := by
  simp only [initServer, bind_eq_ok, readToString_eq_ok]
  constructor
  · rintro ⟨_, ca, _, crt, _, key, _, edge, _, server, _, http, same⟩
    cases same
    exact ⟨ca, crt, key, edge, server, http⟩
  · rintro ⟨ca, crt, key, edge, server, http⟩
    exact ⟨_, ca, _, crt, _, key, _, edge, _, server, _, http, rfl⟩

/-- The addresses the variables ask for. -/
structure Launch.Configured (launch : Launch) (env : Env) : Prop where
  edgeHost : launch.addrEdge.ip.Written (env.var "GRPC_HOST" "localhost")
  edgePort : parseU16 (env.var "GRPC_PORT_EDGE" "50051") =
    some launch.addrEdge.port
  serverHost : launch.addrServer.ip = launch.addrEdge.ip
  serverPort : parseU16 (env.var "GRPC_PORT_SERVER" "50052") =
    some launch.addrServer.port
  httpHost : launch.addrHttp.ip.Written (env.var "HTTPS_HOST" "0.0.0.0")
  httpPort : parseU16 (env.var "HTTPS_PORT" "8080") = some launch.addrHttp.port

/-- The certificates are what the files hold. -/
structure Launch.Certified (launch : Launch) (files : String → Option String) :
    Prop where
  clientCa : files caRouter = some launch.clientCaPem
  serverCert : files crtRouter = some launch.serverCertPem
  serverKey : files keyRouter = some launch.serverKeyPem

/-- The servers are started exactly with the certificates that can be read and at
the addresses that are configured. -/
theorem main_eq_ok {env : Env} {file : List (String × String)}
    {files : String → Option String} {launch : Launch} :
    main env file files = .ok launch ↔
      launch.Certified files ∧ launch.Configured (env.configured file) := by
  simp only [main, bind_eq_ok, System.new_eq_ok, initServer_eq_ok, address_eq_ok,
    Env.port_eq_ok]
  constructor
  · rintro ⟨system, ⟨edge, server, https, grpcHost, httpsHost, _, _⟩,
      ca, crt, key, atEdge, atServer, atHttp⟩
    rw [grpcHost] at atEdge atServer
    rw [httpsHost] at atHttp
    rw [← atEdge.2] at edge
    rw [← atServer.2] at server
    rw [← atHttp.2] at https
    exact ⟨⟨ca, crt, key⟩, atEdge.1, edge, atServer.1.unique atEdge.1, server,
      atHttp.1, https⟩
  · rintro ⟨certified, configured⟩
    have server := configured.edgeHost
    rw [← configured.serverHost] at server
    exact ⟨⟨_, _, _, _, _, _, _⟩,
      ⟨configured.edgePort, configured.serverPort, configured.httpPort, rfl, rfl,
        rfl, rfl⟩,
      certified.clientCa, certified.serverCert, certified.serverKey,
      ⟨configured.edgeHost, rfl⟩, ⟨server, rfl⟩, ⟨configured.httpHost, rfl⟩⟩

/-- No text that begins with anything but a digit or a bracket is listened at. -/
theorem Launch.Configured.front {launch : Launch} {env : Env}
    (configured : launch.Configured env) :
    ∀ first ∈ (env.var "GRPC_HOST" "localhost").toList.head?,
      first = '[' ∨ first.isDigit = true :=
  configured.edgeHost.front

/-- The router starts if and only if its certificates can be read and the variables
that count name an address and a port for each server, and then listens there. Names
are not resolved, the default of `GRPC_HOST` no more than another. -/
theorem starts (env : Env) (file : List (String × String))
    (files : String → Option String) :
    (∀ launch, main env file files = .ok launch ↔
      launch.Certified files ∧ launch.Configured (env.configured file)) ∧
      ((env.configured file).var "GRPC_HOST" "localhost" = "localhost" →
        ∀ launch, main env file files ≠ .ok launch) := by
  constructor
  · intro launch
    exact main_eq_ok
  · intro named launch started
    have front := (main_eq_ok.mp started).2.front
    rw [named] at front
    rcases front 'l' rfl with bracket | digit
    · cases bracket
    · cases digit

/-- Listen at every interface. -/
def anyHost : Env := fun name => if name = "GRPC_HOST" then some "0.0.0.0" else none

/-- The router starts with the one and not with the other. -/
theorem starts_anyHost :
    main anyHost [] (fun _ => some "pem") =
        .ok ⟨"pem", "pem", "pem", ⟨.v4 ⟨0, 0, 0, 0⟩, 50051⟩,
          ⟨.v4 ⟨0, 0, 0, 0⟩, 50052⟩, ⟨.v4 ⟨0, 0, 0, 0⟩, 8080⟩⟩ ∧
      ∀ launch, main (fun _ => none) [] (fun _ => some "pem") ≠ .ok launch := by
  constructor
  · apply ((starts anyHost [] fun _ => some "pem").1 _).mpr
    refine ⟨⟨rfl, rfl, rfl⟩, .inl ⟨_, rfl, ?_⟩, ?_, rfl, ?_, .inl ⟨_, rfl, ?_⟩, ?_⟩
    all_goals decide +kernel
  · exact (starts (fun _ => none) [] fun _ => some "pem").2 rfl

end IotRouter.Startup
