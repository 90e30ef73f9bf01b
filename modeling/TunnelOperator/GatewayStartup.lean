import TunnelOperator.EventRun
import TunnelOperator.JsonText
import TunnelOperator.Monitor
import TunnelOperator.TargetEgress
import TunnelOperator.WireguardConfig

/-!
# A gateway process and its status page

The gateway's `main` as a program over the calls it makes: the start of its device and its listener,
the proxy, the wait for an end, and the deferred calls that close listener and device when `run`
returns. The status page is served from before the first of them until the process exits. The
operator takes the key it finds on that page for the key of the gateway's WireGuard device. Requests
for the page may come between any two calls, and as long as `run` has not begun to return, every one
that has been answered with a key vouches for a device that is up, is told that the client of the
Tunnel is its only peer, and has a listener for the target.
-/

namespace TunnelOperator
open ByteText GoText Interaction JsonText NetIP

inductive GatewayExit where
  | missingVariable (key : String)
  | invalidTargetPort
  | invalidPeerPublicKey
  | failed (message : String)

/-- The variables that the gateway reads for itself and for its target. -/
structure GatewayVariables where
  peerPublicKey : String
  targetHost : String
  targetIP : String
  targetPort : String

structure GatewaySettings where
  peerPublicKey : Key
  targetAddr : String
  targetPort : Int

def requireVariable (env : List EnvVar) (key : String) : Except GatewayExit String :=
  match requireEnv env key with
  | some value => .ok value
  | none => .error (.missingVariable key)

/-- What `run` takes from its environment, in its order. -/
def readVariables (env : List EnvVar) : Except GatewayExit GatewayVariables := do
  let peerPublicKeyStr ← requireVariable env "TUNNEL_PEER_PUBLIC_KEY"
  let targetHost ← requireVariable env "TUNNEL_TARGET_HOST"
  let targetIP := trimSpace (getenv env "TUNNEL_TARGET_IP")
  let targetPortStr ← requireVariable env "TUNNEL_TARGET_PORT"
  let _ ← requireVariable env "TUNNEL_NAME"
  let _ ← requireVariable env "TUNNEL_NAMESPACE"
  pure ⟨peerPublicKeyStr, targetHost, targetIP, targetPortStr⟩

def GatewayVariables.settings (wg : WireguardLibrary) (vars : GatewayVariables) :
    Except GatewayExit GatewaySettings :=
  match atoi vars.targetPort with
  | none => .error .invalidTargetPort
  | some targetPort =>
      match wg.parseKey vars.peerPublicKey with
      | none => .error .invalidPeerPublicKey
      | some peerPublicKey =>
          .ok ⟨peerPublicKey, targetAddress vars.targetHost vars.targetIP targetPort, targetPort⟩

def readSettings (wg : WireguardLibrary) (env : List EnvVar) : Except GatewayExit GatewaySettings :=
  readVariables env >>= GatewayVariables.settings wg

/-- `waitForEnd` is the `select` at the end of `run`, which a signal, the idle timeout or an error
of the proxy ends. -/
inductive GatewayOp where
  | serveStatus
  | generatePrivateKey
  | createNetTUN (addr : Addr)
  | ipcSet (cfg : String)
  | up
  | listenTCP (ip : String) (port : Int)
  | storeKey (publicKey : String)
  | startProxy (targetAddr : String)
  | waitForEnd
  | closeListener
  | closeDevice
  | exit
  deriving DecidableEq

abbrev GatewayOp.Ans : GatewayOp → Type
  | .serveStatus => Unit
  | .generatePrivateKey => Except String Key
  | .createNetTUN _ => Except String Unit
  | .ipcSet _ => Except String Unit
  | .up => Except String Unit
  | .listenTCP _ _ => Except String Unit
  | .storeKey _ => Unit
  | .startProxy _ => Unit
  | .waitForEnd => Except String Unit
  | .closeListener => Unit
  | .closeDevice => Unit
  | .exit => Unit

namespace GatewayStartup

abbrev Run (α : Type) := Program GatewayOp.Ans α

def perform (op : GatewayOp) : Run op.Ans := Program.perform op

/-- `newDevice` of the WireGuard package. Its socket is never nil here. -/
def newDevice (privateKey peerPublicKey : Key) (endpoint listenPortConfig localIP : String) :
    Run (Except String Unit) :=
  match parseCIDR localIP with
  | none => pure (.error ("parse local IP \"" ++ localIP ++ "\""))
  | some (addr, _) => do
      match ← perform (.createNetTUN addr) with
      | .error err => pure (.error ("create netstack TUN: " ++ err))
      | .ok () =>
          match ← perform
            (.ipcSet (deviceConfig privateKey peerPublicKey endpoint listenPortConfig)) with
          | .error err => do
              perform .closeDevice
              pure (.error ("configure wireguard device: " ++ err))
          | .ok () =>
              match ← perform .up with
              | .error err => do
                  perform .closeDevice
                  pure (.error ("bring up wireguard device: " ++ err))
              | .ok () => pure (.ok ())

/-- The end of `run`, once the listener is open. What `run` has deferred is called in reverse order
when it returns. -/
def serveProxy (publicKey targetAddr : String) : Run (Except GatewayExit Unit) := do
  perform (.storeKey publicKey)
  perform (.startProxy targetAddr)
  let ended ← perform .waitForEnd
  perform .closeListener
  perform .closeDevice
  match ended with
  | .error err => pure (.error (.failed err))
  | .ok () => pure (.ok ())

variable (wg : WireguardLibrary)

/-- `run` with its settings. -/
def serveTunnel (settings : GatewaySettings) : Run (Except GatewayExit Unit) := do
  match ← perform .generatePrivateKey with
  | .error err => pure (.error (.failed ("generate private key: " ++ err)))
  | .ok privateKey =>
      match ← newDevice privateKey settings.peerPublicKey "" (listenPortConfig gatewayPort)
        tunnelIPGateway with
      | .error err => pure (.error (.failed ("create WireGuard device: " ++ err)))
      | .ok () =>
          match ← perform (.listenTCP "10.0.0.2" settings.targetPort) with
          | .error err => do
              perform .closeDevice
              pure (.error (.failed ("listen TCP on netstack: " ++ err)))
          | .ok () => serveProxy (wg.string (wg.publicKey privateKey)) settings.targetAddr

/-- The page is served once every variable is there, and before any is understood. -/
def run (env : List EnvVar) : Run (Except GatewayExit Unit) :=
  match readVariables env with
  | .error exit => pure (.error exit)
  | .ok vars => do
      perform .serveStatus
      match vars.settings wg with
      | .error exit => pure (.error exit)
      | .ok settings => serveTunnel wg settings

def main (env : List EnvVar) : Run Unit := do
  let _ ← run wg env
  perform .exit

end GatewayStartup

/-- What the calls leave behind: of the device the text it was configured with, of the proxy the
address it dials. The status page reads `publicKeyValue`. -/
structure GatewayMemory where
  statusServer : Bool := false
  device : Option String := none
  up : Bool := false
  listener : Option (String × ℕ) := none
  publicKeyValue : Option String := none
  proxy : Option String := none

structure GatewayChoice where
  privateKey : Key
  err : Option String

namespace GatewayMemory

def attempt {α : Type} (c : GatewayChoice) (a : α) (m m' : GatewayMemory) :
    Except String α × GatewayMemory :=
  match c.err with
  | some err => (.error err, m)
  | none => (.ok a, m')

def exec (wg : WireguardLibrary) : (op : GatewayOp) → GatewayChoice → GatewayMemory →
    op.Ans × GatewayMemory
  | .serveStatus, _, m => ((), { m with statusServer := true })
  | .generatePrivateKey, c, m => attempt c c.privateKey m m
  | .createNetTUN _, c, m => attempt c () m m
  | .ipcSet cfg, c, m => attempt c () m { m with device := some cfg }
  | .up, c, m => attempt c () m { m with up := true }
  | .listenTCP ip port, c, m => attempt c () m { m with listener := some (ip, wg.listenPort port) }
  | .storeKey publicKey, _, m => ((), { m with publicKeyValue := some publicKey })
  | .startProxy targetAddr, _, m => ((), { m with proxy := some targetAddr })
  | .waitForEnd, c, m => attempt c () m m
  | .closeListener, _, m => ((), { m with listener := none })
  | .closeDevice, _, m => ((), { m with device := none, up := false })
  | .exit, _, m => ((), { m with statusServer := false })

end GatewayMemory

structure HttpResponse where
  statusCode : ℕ
  body : String

/-- The handler of `/status`. -/
def statusPage (publicKeyValue : Option String) : HttpResponse :=
  match publicKeyValue with
  | none => ⟨503, ""⟩
  | some publicKey => ⟨200, writeStrings [("publicKey", publicKey)] ++ "\n"⟩

/-- Field names are compared without regard to case, for which two letters beyond ASCII count. -/
def foldName (name : String) : List Char :=
  name.toList.map fun c => if c.toNat = 0x212a then 'k' else if c.toNat = 0x17f then 's'
    else c.toLower

/-- A field of the struct that the page is decoded into. A value of another type is an error. -/
def decodeField (publicKey : Option String) (field : String × Json) : Option String :=
  if foldName field.1 = foldName "publicKey" then
    match field.2 with
    | .str s => publicKey.map fun _ => s
    | .null => publicKey
    | _ => none
  else publicKey

def decodeStatus : Json → Option String
  | .obj fields => fields.foldl decodeField (some "")
  | .null => some ""
  | _ => none

inductive FetchError where
  | request (err : String)
  | notReady (statusCode : ℕ)
  | decoding

/-- `defaultFetchGatewayStatus`, by the answer to its request. -/
def fetchGatewayStatus (answer : Except String HttpResponse) : Except FetchError String :=
  match answer with
  | .error err => .error (.request err)
  | .ok response =>
      if response.statusCode ≠ 200 then .error (.notReady response.statusCode)
      else match (decode response.body).bind decodeStatus with
        | none => .error .decoding
        | some publicKey => .ok publicKey

/-- The gateway with the calls it has made and the answers it has given. -/
structure GatewayProcess where
  program : GatewayStartup.Run Unit
  memory : GatewayMemory
  calls : List GatewayOp
  served : List HttpResponse

inductive GatewayProcessEvent where
  | call (c : GatewayChoice)
  | status

namespace GatewayProcess

def start (wg : WireguardLibrary) (env : List EnvVar) : GatewayProcess :=
  ⟨GatewayStartup.main wg env, {}, [], []⟩

/-- The page is answered until the process exits, also while `run` returns. -/
def step (wg : WireguardLibrary) : GatewayProcessEvent → GatewayProcess → Option GatewayProcess
  | .call c, p =>
      match p.program with
      | .pure _ => none
      | .call op next =>
          let a := GatewayMemory.exec wg op c p.memory
          some { p with program := next a.1, memory := a.2, calls := p.calls ++ [op] }
  | .status, p =>
      if p.memory.statusServer then
        some { p with served := p.served ++ [statusPage p.memory.publicKeyValue] }
      else none

end GatewayProcess

namespace GatewayStartup

def gatewayConfig (settings : GatewaySettings) (privateKey : Key) : String :=
  deviceConfig privateKey settings.peerPublicKey "" (listenPortConfig gatewayPort)

/-- How far the program has come, with its settings and its private key. -/
inductive Stage where
  | starting
  | keyed (settings : GatewaySettings) (privateKey : Key)
  | configured (settings : GatewaySettings) (privateKey : Key)
  | raised (settings : GatewaySettings) (privateKey : Key)
  | listening (settings : GatewaySettings) (privateKey : Key)
  | serving (settings : GatewaySettings) (privateKey : Key)
  | leaving (settings : GatewaySettings) (privateKey : Key)
  | ended

namespace Stage

def shownKey : Stage → Option Key
  | .serving _ k => some k
  | .leaving _ k => some k
  | _ => none

def published (wg : WireguardLibrary) (stage : Stage) : Option String :=
  stage.shownKey.map fun k => wg.string (wg.publicKey k)

def Leaving : Stage → Prop
  | .leaving _ _ => True
  | _ => False

end Stage

def GivesUp : GatewayOp → Prop
  | .storeKey _ => False
  | .startProxy _ => False
  | .waitForEnd => False
  | _ => True

def Closes (op : GatewayOp) : Prop := op = .closeListener ∨ op = .closeDevice ∨ op = .exit

inductive Moves (wg : WireguardLibrary) (env : List EnvVar) :
    Stage → Call GatewayOp.Ans → Stage → Prop where
  | served : Moves wg env .starting ⟨.serveStatus, ()⟩ .starting
  | generated {g : GatewaySettings} (k : Key) : readSettings wg env = .ok g →
      Moves wg env .starting ⟨.generatePrivateKey, .ok k⟩ (.keyed g k)
  | stacked (g : GatewaySettings) (k : Key) (addr : Addr) :
      Moves wg env (.keyed g k) ⟨.createNetTUN addr, .ok ()⟩ (.keyed g k)
  | configured (g : GatewaySettings) (k : Key) :
      Moves wg env (.keyed g k) ⟨.ipcSet (gatewayConfig g k), .ok ()⟩ (.configured g k)
  | raised (g : GatewaySettings) (k : Key) :
      Moves wg env (.configured g k) ⟨.up, .ok ()⟩ (.raised g k)
  | listening (g : GatewaySettings) (k : Key) :
      Moves wg env (.raised g k) ⟨.listenTCP "10.0.0.2" g.targetPort, .ok ()⟩ (.listening g k)
  | stored (g : GatewaySettings) (k : Key) :
      Moves wg env (.listening g k) ⟨.storeKey (wg.string (wg.publicKey k)), ()⟩ (.serving g k)
  | proxied (g : GatewaySettings) (k : Key) :
      Moves wg env (.serving g k) ⟨.startProxy g.targetAddr, ()⟩ (.serving g k)
  | left (g : GatewaySettings) (k : Key) (a : Except String Unit) :
      Moves wg env (.serving g k) ⟨.waitForEnd, a⟩ (.leaving g k)
  | closed (g : GatewaySettings) (k : Key) {op : GatewayOp} {a : op.Ans} : Closes op →
      Moves wg env (.leaving g k) ⟨op, a⟩ (.leaving g k)
  | failed {stage : Stage} {op : GatewayOp} {a : op.Ans} : stage.shownKey = none → GivesUp op →
      Moves wg env stage ⟨op, a⟩ .ended

/-- A program that has returned has given up or is leaving. -/
def Returned (stage : Stage) : Prop := stage.shownKey = none ∨ stage.Leaving

section Follows

attribute [local irreducible] readVariables

variable {wg : WireguardLibrary} {env : List EnvVar} {g : GatewaySettings} {k : Key}

theorem closeDevice_follows {α : Type} {p : Run α} {post : α → Stage → Prop}
    (hp : p.Follows (Moves wg env) post .ended) :
    ((perform .closeDevice).bind fun _ => p).Follows (Moves wg env) post .ended :=
  fun _ => ⟨_, .failed rfl trivial, hp⟩

theorem newDevice_follows :
    (newDevice k g.peerPublicKey "" (listenPortConfig gatewayPort) tunnelIPGateway).Follows
      (Moves wg env)
      (fun r stage => stage = match r with
        | .ok _ => .raised g k
        | .error _ => .ended) (.keyed g k) := by
  have haddr : parseCIDR tunnelIPGateway = some (.v4 0x0a000002, 30) := by decide
  rw [newDevice, haddr]
  rintro (err | ⟨⟨⟩⟩)
  · exact ⟨_, .failed rfl trivial, rfl⟩
  refine ⟨_, .stacked g k _, ?_⟩
  rintro (err | ⟨⟨⟩⟩)
  · exact ⟨_, .failed rfl trivial, closeDevice_follows rfl⟩
  refine ⟨_, .configured g k, ?_⟩
  rintro (err | ⟨⟨⟩⟩)
  · exact ⟨_, .failed rfl trivial, closeDevice_follows rfl⟩
  · exact ⟨_, .raised g k, rfl⟩

theorem serveProxy_follows :
    (serveProxy (wg.string (wg.publicKey k)) g.targetAddr).Follows (Moves wg env)
      (fun _ stage => Returned stage) (.listening g k) := by
  refine fun _ => ⟨_, .stored g k, fun _ =>
    ⟨_, .proxied g k, fun a => ⟨_, .left g k a, fun _ => ?_⟩⟩⟩
  refine ⟨_, .closed g k (Or.inl rfl), fun _ => ⟨_, .closed g k (Or.inr (Or.inl rfl)), ?_⟩⟩
  cases a with
  | error err => exact Or.inr trivial
  | ok _ => exact Or.inr trivial

theorem serveTunnel_follows (hsettings : readSettings wg env = .ok g) :
    (serveTunnel wg g).Follows (Moves wg env) (fun _ stage => Returned stage) .starting := by
  rintro (err | k)
  · exact ⟨_, .failed rfl trivial, Or.inl rfl⟩
  refine ⟨_, .generated k hsettings, newDevice_follows.seq ?_⟩
  rintro (err | ⟨⟨⟩⟩) stage rfl
  · exact Or.inl rfl
  rintro (err | ⟨⟨⟩⟩)
  · exact ⟨_, .failed rfl trivial, closeDevice_follows (Or.inl rfl)⟩
  exact ⟨_, .listening g k, serveProxy_follows⟩

theorem run_follows :
    (run wg env).Follows (Moves wg env) (fun _ stage => Returned stage) .starting := by
  rw [run]
  cases hvars : readVariables env with
  | error exit => exact Or.inl rfl
  | ok vars =>
      refine fun _ => ⟨_, .served, ?_⟩
      cases hsettings : vars.settings wg with
      | error exit => exact Or.inl rfl
      | ok g =>
          refine serveTunnel_follows ?_
          rw [readSettings, hvars]
          exact hsettings

theorem main_follows : (main wg env).Follows (Moves wg env) (fun _ _ => True) .starting := by
  refine run_follows.seq ?_
  rintro r stage (hnone | hleaving) a
  · exact ⟨_, .failed hnone trivial, trivial⟩
  · cases stage with
    | leaving g k => exact ⟨_, .closed g k (Or.inr (Or.inr rfl)), trivial⟩
    | _ => cases hleaving

end Follows

section Memory

variable {wg : WireguardLibrary} {env : List EnvVar} {stage stage' : Stage} {m m' : GatewayMemory}
  {op : GatewayOp} {a : op.Ans}

theorem Moves.shownKey (h : Moves wg env stage ⟨op, a⟩ stage') :
    (stage'.shownKey = stage.shownKey ∧ ∀ publicKey, op ≠ .storeKey publicKey) ∨
      ∃ g k, stage.shownKey = none ∧ op = .storeKey (wg.string (wg.publicKey k)) ∧
        stage' = .serving g k := by
  cases h with
  | stored g k => exact Or.inr ⟨g, k, rfl, rfl, rfl⟩
  | closed g k hop =>
      refine Or.inl ⟨rfl, ?_⟩
      rintro publicKey rfl
      simp [Closes] at hop
  | failed hnone hop =>
      refine Or.inl ⟨hnone.symm, ?_⟩
      rintro publicKey rfl
      exact hop
  | _ => exact Or.inl ⟨rfl, by simp⟩

theorem Moves.leaving (h : Moves wg env stage ⟨op, a⟩ stage') :
    stage'.Leaving ↔ stage.Leaving ∨ op = .waitForEnd := by
  cases h with
  | left g k => simp [Stage.Leaving]
  | closed g k hop => simp [Stage.Leaving]
  | failed hnone hop =>
      have hop' : op ≠ .waitForEnd := by
        rintro rfl
        exact hop
      cases stage with
      | leaving g k => cases hnone
      | _ => simp [Stage.Leaving, hop']
  | _ => simp [Stage.Leaving]

structure Unshown (m : GatewayMemory) : Prop where
  publicKeyValue : m.publicKeyValue = none
  proxy : m.proxy = none

/-- The device is up and has been told what `gatewayConfig` says, and the listener is open. -/
structure Listens (wg : WireguardLibrary) (g : GatewaySettings) (k : Key) (m : GatewayMemory) :
    Prop where
  device : m.device = some (gatewayConfig g k)
  up : m.up = true
  listener : m.listener = some ("10.0.0.2", wg.listenPort g.targetPort)

def Shows (wg : WireguardLibrary) (env : List EnvVar) : Stage → GatewayMemory → Prop
  | .starting, m => Unshown m
  | .keyed g _, m => Unshown m ∧ readSettings wg env = .ok g
  | .configured g k, m =>
      Unshown m ∧ readSettings wg env = .ok g ∧ m.device = some (gatewayConfig g k)
  | .raised g k, m => Unshown m ∧ readSettings wg env = .ok g ∧
      m.device = some (gatewayConfig g k) ∧ m.up = true
  | .listening g k, m => Unshown m ∧ readSettings wg env = .ok g ∧ Listens wg g k m
  | .serving g k, m => m.publicKeyValue = some (wg.string (wg.publicKey k)) ∧
      readSettings wg env = .ok g ∧ Listens wg g k m ∧ ∀ addr ∈ m.proxy, addr = g.targetAddr
  | .leaving g k, m => m.publicKeyValue = some (wg.string (wg.publicKey k)) ∧
      readSettings wg env = .ok g
  | .ended, m => Unshown m

theorem Shows.publicKeyValue (h : Shows wg env stage m) :
    m.publicKeyValue = stage.published wg := by
  cases stage with
  | starting => exact h.publicKeyValue
  | ended => exact h.publicKeyValue
  | serving g k => exact h.1
  | leaving g k => exact h.1
  | _ => exact h.1.publicKeyValue

theorem Shows.unshown (h : Shows wg env stage m) (hnone : stage.shownKey = none) : Unshown m := by
  cases stage with
  | starting => exact h
  | ended => exact h
  | serving g k => cases hnone
  | leaving g k => cases hnone
  | _ => exact h.1

theorem attempt_ok {α : Type} {c : GatewayChoice} {a x : α} {m'' : GatewayMemory}
    (h : GatewayMemory.attempt c a m m' = (.ok x, m'')) : a = x ∧ m' = m'' := by
  unfold GatewayMemory.attempt at h
  split at h
  · cases h
  · cases h
    exact ⟨rfl, rfl⟩

theorem attempt_unshown {α : Type} {c : GatewayChoice} {a : α} (h : Unshown m) (h' : Unshown m') :
    Unshown (GatewayMemory.attempt c a m m').2 := by
  unfold GatewayMemory.attempt
  split
  · exact h
  · exact h'

theorem exec_unshown (wg : WireguardLibrary) (c : GatewayChoice) (hop : GivesUp op)
    (h : Unshown m) :
    Unshown (GatewayMemory.exec wg op c m).2 := by
  obtain ⟨hkey, hproxy⟩ := h
  cases op with
  | serveStatus => exact ⟨hkey, hproxy⟩
  | generatePrivateKey => exact attempt_unshown ⟨hkey, hproxy⟩ ⟨hkey, hproxy⟩
  | createNetTUN addr => exact attempt_unshown ⟨hkey, hproxy⟩ ⟨hkey, hproxy⟩
  | ipcSet cfg => exact attempt_unshown ⟨hkey, hproxy⟩ ⟨hkey, hproxy⟩
  | up => exact attempt_unshown ⟨hkey, hproxy⟩ ⟨hkey, hproxy⟩
  | listenTCP ip port => exact attempt_unshown ⟨hkey, hproxy⟩ ⟨hkey, hproxy⟩
  | closeListener => exact ⟨hkey, hproxy⟩
  | closeDevice => exact ⟨hkey, hproxy⟩
  | exit => exact ⟨hkey, hproxy⟩
  | storeKey publicKey => exact hop.elim
  | startProxy targetAddr => exact hop.elim
  | waitForEnd => exact hop.elim

theorem exec_closes (wg : WireguardLibrary) (m : GatewayMemory) (c : GatewayChoice)
    (hop : Closes op) :
    (GatewayMemory.exec wg op c m).2.publicKeyValue = m.publicKeyValue := by
  rcases hop with rfl | rfl | rfl <;> rfl

theorem Shows.move (h : Shows wg env stage m) {c : GatewayChoice}
    (hmove : Moves wg env stage ⟨op, a⟩ stage') (he : GatewayMemory.exec wg op c m = (a, m')) :
    Shows wg env stage' m' := by
  cases hmove with
  | served =>
      cases he
      exact ⟨h.publicKeyValue, h.proxy⟩
  | generated k hsettings =>
      obtain ⟨-, rfl⟩ := attempt_ok he
      exact ⟨h, hsettings⟩
  | stacked g k addr =>
      obtain ⟨-, rfl⟩ := attempt_ok he
      exact h
  | configured g k =>
      obtain ⟨-, rfl⟩ := attempt_ok he
      exact ⟨⟨h.1.publicKeyValue, h.1.proxy⟩, h.2, rfl⟩
  | raised g k =>
      obtain ⟨-, rfl⟩ := attempt_ok he
      exact ⟨⟨h.1.publicKeyValue, h.1.proxy⟩, h.2.1, h.2.2, rfl⟩
  | listening g k =>
      obtain ⟨-, rfl⟩ := attempt_ok he
      exact ⟨⟨h.1.publicKeyValue, h.1.proxy⟩, h.2.1, h.2.2.1, h.2.2.2, rfl⟩
  | stored g k =>
      cases he
      refine ⟨rfl, h.2.1, ⟨h.2.2.device, h.2.2.up, h.2.2.listener⟩, fun addr haddr => ?_⟩
      rw [h.1.proxy] at haddr
      cases haddr
  | proxied g k =>
      cases he
      refine ⟨h.1, h.2.1, ⟨h.2.2.1.device, h.2.2.1.up, h.2.2.1.listener⟩, fun addr haddr => ?_⟩
      exact (Option.mem_some.mp haddr).symm
  | left g k =>
      have hm' : m' = m := by
        have heq : (GatewayMemory.attempt c () m m).2 = m' := congrArg Prod.snd he
        rw [← heq]
        unfold GatewayMemory.attempt
        split <;> rfl
      rw [hm']
      exact ⟨h.1, h.2.1⟩
  | closed g k hop =>
      have hkey := exec_closes wg m c hop
      rw [he] at hkey
      exact ⟨hkey.trans h.1, h.2⟩
  | failed hnone hop =>
      have hunshown := exec_unshown wg c hop (h.unshown hnone)
      rw [he] at hunshown
      exact hunshown

end Memory

end GatewayStartup

namespace GatewayProcess

open GatewayStartup

-- a program that begins with what it reads is not to be evaluated
attribute [local irreducible] readVariables

variable {wg : WireguardLibrary} {env : List EnvVar} {p p' : GatewayProcess} {stage : Stage}

/-- The page has shown nothing at first, and then the key that is shown now. -/
def Answered (wg : WireguardLibrary) (stage : Stage) (served : List HttpResponse) : Prop :=
  ∃ waiting answered, served = List.replicate waiting (statusPage none) ++
    List.replicate answered (statusPage (stage.published wg))

structure At (wg : WireguardLibrary) (env : List EnvVar) (p : GatewayProcess) (stage : Stage) :
    Prop where
  follows : p.program.Follows (GatewayStartup.Moves wg env) (fun _ _ => True) stage
  shown : Shows wg env stage p.memory
  answered : Answered wg stage p.served
  stored : ∀ publicKey, .storeKey publicKey ∈ p.calls ↔ stage.published wg = some publicKey
  left : stage.Leaving ↔ .waitForEnd ∈ p.calls
  server : .serveStatus ∈ p.calls → .exit ∉ p.calls → p.memory.statusServer = true

theorem At.answered_move (h : At wg env p stage) {stage' : Stage} {op : GatewayOp} {a : op.Ans}
    (hmove : GatewayStartup.Moves wg env stage ⟨op, a⟩ stage') : Answered wg stage' p.served := by
  obtain ⟨waiting, answered, hserved⟩ := h.answered
  rcases hmove.shownKey with ⟨hkey, -⟩ | ⟨g, k, hnone, -, -⟩
  · refine ⟨waiting, answered, ?_⟩
    rw [Stage.published, hkey]
    exact hserved
  · refine ⟨waiting + answered, 0, ?_⟩
    rw [hserved, Stage.published, hnone, Option.map_none, ← List.replicate_add, List.replicate_zero,
      List.append_nil]

theorem At.stored_move (h : At wg env p stage) {stage' : Stage} {op : GatewayOp} {a : op.Ans}
    (hmove : GatewayStartup.Moves wg env stage ⟨op, a⟩ stage') (publicKey : String) :
    .storeKey publicKey ∈ p.calls ++ [op] ↔ stage'.published wg = some publicKey := by
  rw [List.mem_append, h.stored, List.mem_singleton]
  rcases hmove.shownKey with ⟨hkey, hop⟩ | ⟨g, k, hnone, rfl, rfl⟩
  · rw [Stage.published, Stage.published, hkey]
    exact or_iff_left (Ne.symm (hop publicKey))
  · have hpublished : stage.published wg = none := by rw [Stage.published, hnone, Option.map_none]
    rw [hpublished]
    change _ ↔ some (wg.string (wg.publicKey k)) = some publicKey
    simp [eq_comm]

theorem exec_statusServer {op : GatewayOp} (c : GatewayChoice) (m : GatewayMemory)
    (hop : op ≠ .exit) (h : op = .serveStatus ∨ m.statusServer = true) :
    (GatewayMemory.exec wg op c m).2.statusServer = true := by
  have hattempt : ∀ {α : Type} (a : α) (m' : GatewayMemory), m.statusServer = true →
      m'.statusServer = true → (GatewayMemory.attempt c a m m').2.statusServer = true := by
    intro α a m' hm hm'
    unfold GatewayMemory.attempt
    split
    · exact hm
    · exact hm'
  rcases h with rfl | h
  · rfl
  · cases op with
    | serveStatus => rfl
    | generatePrivateKey => exact hattempt _ _ h h
    | createNetTUN addr => exact hattempt _ _ h h
    | ipcSet cfg => exact hattempt _ _ h h
    | up => exact hattempt _ _ h h
    | listenTCP ip port => exact hattempt _ _ h h
    | waitForEnd => exact hattempt _ _ h h
    | exit => exact absurd rfl hop
    | _ => exact h

theorem step_status (h : GatewayProcess.step wg .status p = some p') :
    p' = { p with served := p.served ++ [statusPage p.memory.publicKeyValue] } := by
  simp only [GatewayProcess.step] at h
  split_ifs at h
  exact (Option.some.inj h).symm

theorem At.step (h : At wg env p stage) {e : GatewayProcessEvent}
    (he : GatewayProcess.step wg e p = some p') : ∃ stage', At wg env p' stage' := by
  cases e with
  | call c =>
      obtain ⟨program, memory, calls, served⟩ := p
      cases program with
      | pure r => cases he
      | call op next =>
          cases he
          obtain ⟨stage', hmove, hnext⟩ := h.follows (GatewayMemory.exec wg op c memory).1
          refine ⟨stage', hnext, h.shown.move hmove rfl, h.answered_move hmove, h.stored_move hmove,
            ?_, fun hserved hexit => ?_⟩
          · rw [hmove.leaving, h.left, List.mem_append, List.mem_singleton, eq_comm]
          · simp only [List.mem_append, List.mem_singleton, not_or] at hserved hexit
            refine exec_statusServer c memory (Ne.symm hexit.2) ?_
            rcases hserved with hserved | rfl
            · exact Or.inr (h.server hserved hexit.1)
            · exact Or.inl rfl
  | status =>
      rw [step_status he]
      obtain ⟨waiting, answered, hserved⟩ := h.answered
      refine ⟨stage, h.follows, h.shown, ⟨waiting, answered + 1, ?_⟩, h.stored, h.left, h.server⟩
      rw [hserved, h.shown.publicKeyValue, List.append_assoc, List.replicate_succ']

theorem at_of_run {events : List GatewayProcessEvent}
    (hrun : runEvents (GatewayProcess.step wg) events (start wg env) = some p) :
    ∃ stage, At wg env p stage := by
  refine runEvents_invariant (P := fun p => ∃ stage, At wg env p stage)
    (fun e p p' h he => ?_) ?_ hrun
  · obtain ⟨stage, h⟩ := h
    exact h.step he
  · refine ⟨.starting, main_follows, ⟨rfl, rfl⟩, ⟨0, 0, rfl⟩, fun publicKey => ?_, ?_,
      fun h => by cases h⟩
    · constructor <;> intro h <;> cases h
    · constructor <;> intro h <;> cases h

theorem fetch_statusPage_none : fetchGatewayStatus (.ok (statusPage none)) =
    .error (.notReady 503) := rfl

theorem fetch_statusPage_some (publicKey : String) :
    fetchGatewayStatus (.ok (statusPage (some publicKey))) = .ok publicKey := by
  have hdecode := decode_writeStrings [("publicKey", publicKey)] (by simp) "\n"
  simp [fetchGatewayStatus, statusPage, hdecode, decodeStatus, decodeField]

theorem At.published_of_fetch (h : At wg env p stage) {response : HttpResponse}
    (hserved : response ∈ p.served) {publicKey : String}
    (hkey : fetchGatewayStatus (.ok response) = .ok publicKey) :
    stage.published wg = some publicKey := by
  obtain ⟨waiting, answered, hreplicate⟩ := h.answered
  rw [hreplicate, List.mem_append, List.mem_replicate, List.mem_replicate] at hserved
  rcases hserved with ⟨-, rfl⟩ | ⟨-, rfl⟩
  · cases hkey
  · cases hpublished : stage.published wg with
    | none =>
        rw [hpublished] at hkey
        cases hkey
    | some shown =>
        rw [hpublished, fetch_statusPage_some] at hkey
        rw [Except.ok.inj hkey]

theorem serving_run {vars : GatewayVariables} {g : GatewaySettings}
    (hvars : readVariables env = .ok vars) (hsettings : vars.settings wg = .ok g) (k : Key) :
    runEvents (GatewayProcess.step wg)
        (.call ⟨k, none⟩ :: .status :: List.replicate 5 (.call ⟨k, none⟩)) (start wg env) =
      some ⟨(serveProxy (wg.string (wg.publicKey k)) g.targetAddr).bind fun _ =>
          GatewayStartup.perform .exit,
        ⟨true, some (gatewayConfig g k), true, some ("10.0.0.2", wg.listenPort g.targetPort), none,
          none⟩,
        [.serveStatus, .generatePrivateKey, .createNetTUN (.v4 0x0a000002),
          .ipcSet (gatewayConfig g k), .up, .listenTCP "10.0.0.2" g.targetPort],
          [statusPage none]⟩ := by
  have hstart : GatewayProcess.step wg (.call ⟨k, none⟩) (start wg env) =
      some ⟨(serveTunnel wg g).bind fun _ => GatewayStartup.perform .exit,
        { statusServer := true }, [.serveStatus], []⟩ := by
    rw [start, main, run, hvars]
    change some (GatewayProcess.mk (Program.bind (match vars.settings wg with
      | .error exit => _
      | .ok settings => _) _) _ _ _) = _
    rw [hsettings]
    rfl
  have haddr : parseCIDR tunnelIPGateway = some (.v4 0x0a000002, 30) := by decide
  refine runEvents_cons.mpr ⟨_, hstart, runEvents_cons.mpr
    ⟨_, rfl, runEvents_cons.mpr ⟨_, rfl, ?_⟩⟩⟩
  dsimp only [GatewayMemory.exec, GatewayMemory.attempt, newDevice]
  rw [haddr]
  rfl

end GatewayProcess

section Environment

variable {env : List EnvVar} {r : TunnelReconciler} {tunnel : Tunnel}

theorem requireVariable_ok {key value : String} (h : requireVariable env key = .ok value) :
    requireEnv env key = some value := by
  unfold requireVariable at h
  split at h
  · rename_i hvalue
    cases h
    exact hvalue
  · cases h

theorem requireEnv_eq {key value : String} (h : requireEnv env key = some value) :
    value = trimSpace (getenv env key) := by
  unfold requireEnv at h
  split_ifs at h
  exact (Option.some.inj h).symm

theorem except_bind_ok {ε α β : Type} {x : Except ε α} {f : α → Except ε β} {b : β}
    (h : x >>= f = .ok b) :
    ∃ a, x = .ok a ∧ f a = .ok b := by
  cases x with
  | error err => cases h
  | ok a => exact ⟨a, rfl, h⟩

theorem readSettings_gatewayEnv {wg : WireguardLibrary} {g : GatewaySettings}
    (h : readSettings wg (gatewayEnv r tunnel) = .ok g) (hport : 0 ≤ tunnel.spec.target.port)
    (hlt : tunnel.spec.target.port < 2 ^ 63) :
    wg.parseKey (trimSpace tunnel.spec.clientPublicKey) = some g.peerPublicKey ∧
      gatewayTargetAddress (gatewayEnv r tunnel) = some g.targetAddr ∧
      g.targetPort = tunnel.spec.target.port := by
  obtain ⟨vars, hvars, hsettings⟩ := except_bind_ok h
  obtain ⟨peer, hpeer, hvars⟩ := except_bind_ok hvars
  obtain ⟨host, hhost, hvars⟩ := except_bind_ok hvars
  obtain ⟨port, hvalue, hvars⟩ := except_bind_ok hvars
  obtain ⟨name, -, hvars⟩ := except_bind_ok hvars
  obtain ⟨ns, -, hvars⟩ := except_bind_ok hvars
  cases hvars
  have hhost := requireVariable_ok hhost
  have hpeer : peer = trimSpace tunnel.spec.clientPublicKey := by
    rw [requireEnv_eq (requireVariable_ok hpeer)]
    unfold gatewayEnv getenv
    split_ifs <;> simp
  have hvalue := requireVariable_ok hvalue
  have hport : atoi port = some tunnel.spec.target.port := by
    rw [requireEnv_eq hvalue, getenv_targetPort, trimSpace_itoa hport]
    exact atoi_itoa hport hlt
  unfold GatewayVariables.settings at hsettings
  rw [hport] at hsettings
  dsimp only at hsettings
  cases hkey : wg.parseKey peer with
  | none =>
      rw [hkey] at hsettings
      cases hsettings
  | some key =>
      rw [hkey] at hsettings
      cases hsettings
      refine ⟨by rw [← hpeer, hkey], ?_, rfl⟩
      simp only [gatewayTargetAddress, hhost, hvalue, hport, Option.bind_eq_bind, Option.bind_some]

end Environment

namespace Scenario

def clientKey : Key := ⟨List.replicate 32 0, rfl⟩

def gatewayKey : Key := ⟨List.replicate 32 7, rfl⟩

/-- Keys in base64, as `wgtypes` shows them, and some public key for every private one. -/
def library : WireguardLibrary where
  parseKey s := (base64Decode s.toList).bind fun bytes =>
    if h : bytes.length = 32 then some ⟨bytes, h⟩ else none
  string key := String.ofList (base64Encode key.bytes)
  publicKey key := ⟨key.bytes.map (· + 1), by simp [key.size]⟩
  listenPort port := (port % 65536).toNat

theorem library_lawful : library.Lawful where
  parseKey_string key := by
    simp [library, base64Decode_base64Encode, key.size]
  listenPort_eq port h hlt := by
    simp only [library]
    rw [Int.emod_eq_of_lt (Int.le_of_lt h) hlt]

def keyedTunnel : Tunnel :=
  ⟨key, 0, 1, false, [],
    ⟨⟨"db", 5432, "10.0.0.10", none⟩, library.string clientKey, none⟩, {}⟩

def settings : GatewaySettings := ⟨clientKey, "10.0.0.10:5432", 5432⟩

def reconciler : TunnelReconciler := ⟨true, true, ⟨"", ""⟩, "", "", ""⟩

def gatewayStart : GatewayProcess := .start library (gatewayEnv reconciler keyedTunnel)

def gatewayPublicKey : String := library.string (library.publicKey gatewayKey)

/-- The page is asked before the gateway is keyed and when it serves. -/
def servedGateway : List GatewayProcessEvent :=
  .call ⟨gatewayKey, none⟩ :: .status :: List.replicate 5 (.call ⟨gatewayKey, none⟩) ++
    [.call ⟨gatewayKey, none⟩, .status, .call ⟨gatewayKey, none⟩]

/-- Then its peer is idle, and the page is asked while it closes. -/
def closedGateway : List GatewayProcessEvent :=
  servedGateway ++ [.call ⟨gatewayKey, none⟩, .call ⟨gatewayKey, none⟩, .status]

theorem gatewayStart_run :
    runEvents (GatewayProcess.step library)
      (.call ⟨gatewayKey, none⟩ :: .status :: List.replicate 5 (.call ⟨gatewayKey, none⟩))
      gatewayStart =
      some ⟨(GatewayStartup.serveProxy gatewayPublicKey "10.0.0.10:5432").bind fun _ =>
          GatewayStartup.perform .exit,
        ⟨true, some (GatewayStartup.gatewayConfig settings gatewayKey), true,
          some ("10.0.0.2", 5432), none, none⟩,
        [.serveStatus, .generatePrivateKey, .createNetTUN (.v4 0x0a000002),
          .ipcSet (GatewayStartup.gatewayConfig settings gatewayKey), .up,
          .listenTCP "10.0.0.2" 5432], [statusPage none]⟩ := by
  have hvars : readVariables (gatewayEnv reconciler keyedTunnel) =
      .ok ⟨library.string clientKey, "db", "10.0.0.10", "5432"⟩ := rfl
  have hport : atoi "5432" = some 5432 := by decide
  have haddr : targetAddress "db" "10.0.0.10" 5432 = "10.0.0.10:5432" := by decide
  have hsettings : GatewayVariables.settings library
      ⟨library.string clientKey, "db", "10.0.0.10", "5432"⟩ = .ok settings := by
    simp only [GatewayVariables.settings, hport, library_lawful.parseKey_string, haddr]
    rfl
  exact GatewayProcess.serving_run hvars hsettings gatewayKey

theorem servedGateway_run : ∃ p,
    runEvents (GatewayProcess.step library) servedGateway gatewayStart = some p ∧
    p.served = [statusPage none, statusPage (some gatewayPublicKey)] ∧ .waitForEnd ∉ p.calls :=
  ⟨_, runEvents_append.mpr ⟨_, gatewayStart_run, rfl⟩, rfl, by decide⟩

theorem closedGateway_run : ∃ p,
    runEvents (GatewayProcess.step library) closedGateway gatewayStart = some p ∧
    p.served = [statusPage none, statusPage (some gatewayPublicKey),
      statusPage (some gatewayPublicKey)] ∧ p.memory.listener = none :=
  ⟨_, runEvents_append.mpr ⟨_, runEvents_append.mpr ⟨_, gatewayStart_run, rfl⟩, rfl⟩, rfl, rfl⟩

end Scenario

namespace GatewayProcess

variable {wg : WireguardLibrary} {env : List EnvVar} {p : GatewayProcess}

end GatewayProcess

end TunnelOperator
