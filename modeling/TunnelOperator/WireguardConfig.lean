import TunnelOperator.ByteText
import TunnelOperator.GoText

/-!
# The configuration of the WireGuard device

`newDevice` configures its device with a text of lines, each a key and a value, in which keys are
hexadecimal. The device, its netstack and the functions on keys belong to other libraries: they are
parameters here, and what is assumed of them is named. The text is taken apart again, so that it can
be said what the device is told without saying what it does with it.
-/

namespace TunnelOperator
open ByteText GoText

/-- `wgtypes.Key`. -/
structure Key where
  bytes : List UInt8
  size : bytes.length = 32
  deriving DecidableEq

/-- The functions of other libraries that the gateway relies on: `ParseKey`, `String` and
`PublicKey` of `wgtypes`, and the port at which the netstack listens when it is asked for one. -/
structure WireguardLibrary where
  parseKey : String → Option Key
  string : Key → String
  publicKey : Key → Key
  listenPort : Int → ℕ

structure WireguardLibrary.Lawful (wg : WireguardLibrary) : Prop where
  parseKey_string : ∀ key, wg.parseKey (wg.string key) = some key
  listenPort_eq : ∀ port, 0 < port → port < 65536 → wg.listenPort port = port.toNat

def encodeKey (key : Key) : String := String.ofList (hexEncode key.bytes)

def tunnelIPGateway : String := "10.0.0.2/30"

def persistentKeepalive : Int := 20

def listenPortConfig (listenPort : Int) : String := "listen_port=" ++ itoa listenPort ++ "\n"

/-- The text that `newDevice` writes. -/
def deviceConfig (privateKey peerPublicKey : Key) (endpoint listenPortConfig : String) : String :=
  let cfg := "private_key=" ++ encodeKey privateKey ++ "\n" ++ listenPortConfig ++
    "public_key=" ++ encodeKey peerPublicKey ++ "\n" ++
    "persistent_keepalive_interval=" ++ itoa persistentKeepalive ++ "\n" ++
    "allowed_ip=0.0.0.0/0\n"
  if endpoint ≠ "" then cfg ++ "endpoint=" ++ endpoint ++ "\n" else cfg

/-- The values that the lines of a configuration give for a key. -/
def configured (name cfg : String) : List (List Char) :=
  (splitLines cfg.toList).filterMap fun line =>
    (cut line).bind fun field => if field.1 = name.toList then some field.2 else none

/-- A configuration of a device with one peer, which may send and receive everything. -/
structure Configures (cfg : String) (privateKey peer : Key) (listenPort : Int) : Prop where
  privateKey : (configured "private_key" cfg).map hexDecode = [some privateKey.bytes]
  listenPort : configured "listen_port" cfg = [(itoa listenPort).toList]
  peer : (configured "public_key" cfg).map hexDecode = [some peer.bytes]
  keepalive : configured "persistent_keepalive_interval" cfg = [(itoa persistentKeepalive).toList]
  allowedIP : configured "allowed_ip" cfg = ["0.0.0.0/0".toList]

section Text

theorem hexDecode_encodeKey (key : Key) : hexDecode (encodeKey key).toList = some key.bytes := by
  rw [encodeKey, String.toList_ofList, hexDecode_hexEncode]

theorem newline_not_mem_encodeKey (key : Key) : '\n' ∉ (encodeKey key).toList := by
  rw [encodeKey, String.toList_ofList]
  intro h
  exact absurd (hexEncode_chars h) (by decide)

/-- The keys and values of the configuration, line by line. -/
def configFields (privateKey peerPublicKey : Key) (endpoint : String) (listenPort : Int) :
    List (String × String) :=
  [("private_key", encodeKey privateKey), ("listen_port", itoa listenPort),
    ("public_key", encodeKey peerPublicKey),
    ("persistent_keepalive_interval", itoa persistentKeepalive), ("allowed_ip", "0.0.0.0/0")] ++
    if endpoint ≠ "" then [("endpoint", endpoint)] else []

def configLine (field : String × String) : List Char := field.1.toList ++ '=' :: field.2.toList

variable (privateKey peerPublicKey : Key) {endpoint : String} {listenPort : Int}

theorem configFields_key {field : String × String}
    (h : field ∈ configFields privateKey peerPublicKey endpoint listenPort) :
    '=' ∉ field.1.toList ∧ '\n' ∉ field.1.toList := by
  simp only [configFields, List.mem_append, List.mem_cons, List.not_mem_nil, or_false] at h
  rcases h with (rfl | rfl | rfl | rfl | rfl) | h
  · exact ⟨show '=' ∉ "private_key".toList by decide, show '\n' ∉ "private_key".toList by decide⟩
  · exact ⟨show '=' ∉ "listen_port".toList by decide, show '\n' ∉ "listen_port".toList by decide⟩
  · exact ⟨show '=' ∉ "public_key".toList by decide, show '\n' ∉ "public_key".toList by decide⟩
  · exact ⟨by decide, by decide⟩
  · exact ⟨by decide, by decide⟩
  · split_ifs at h
    · rw [List.mem_singleton.mp h]
      exact ⟨show '=' ∉ "endpoint".toList by decide, show '\n' ∉ "endpoint".toList by decide⟩
    · cases h

theorem configFields_value (hendpoint : '\n' ∉ endpoint.toList) (hport : 0 ≤ listenPort)
    {field : String × String}
    (h : field ∈ configFields privateKey peerPublicKey endpoint listenPort) :
    '\n' ∉ field.2.toList := by
  simp only [configFields, List.mem_append, List.mem_cons, List.not_mem_nil, or_false] at h
  rcases h with (rfl | rfl | rfl | rfl | rfl) | h
  · exact newline_not_mem_encodeKey _
  · exact not_mem_itoa hport (by decide)
  · exact newline_not_mem_encodeKey _
  · exact not_mem_itoa (by decide) (by decide)
  · exact show '\n' ∉ "0.0.0.0/0".toList by decide
  · split_ifs at h
    · rw [List.mem_singleton.mp h]
      exact hendpoint
    · cases h

theorem splitLines_deviceConfig (hendpoint : '\n' ∉ endpoint.toList) (hport : 0 ≤ listenPort) :
    splitLines (deviceConfig privateKey peerPublicKey endpoint
      (listenPortConfig listenPort)).toList =
      (configFields privateKey peerPublicKey endpoint listenPort).map configLine := by
  have htext : (deviceConfig privateKey peerPublicKey endpoint
    (listenPortConfig listenPort)).toList =
      ((configFields privateKey peerPublicKey endpoint listenPort).map configLine).flatMap
        (· ++ ['\n']) := by
    unfold deviceConfig listenPortConfig configFields
    split_ifs <;> simp [configLine]
  rw [htext]
  refine splitLines_flatMap fun line hline => ?_
  obtain ⟨field, hfield, rfl⟩ := List.mem_map.mp hline
  simp only [configLine, List.mem_append, List.mem_cons, not_or]
  exact ⟨(configFields_key _ _ hfield).2, by decide, configFields_value _ _ hendpoint hport hfield⟩

theorem configured_deviceConfig (name : String) (hendpoint : '\n' ∉ endpoint.toList)
    (hport : 0 ≤ listenPort) :
    configured name (deviceConfig privateKey peerPublicKey endpoint (listenPortConfig listenPort)) =
      (configFields privateKey peerPublicKey endpoint listenPort).filterMap fun field =>
        if field.1 = name then some field.2.toList else none := by
  rw [configured, splitLines_deviceConfig _ _ hendpoint hport, List.filterMap_map]
  refine List.filterMap_congr fun field hfield => ?_
  simp only [Function.comp_apply, configLine, cut_append (configFields_key _ _ hfield).1,
    Option.bind_some, String.toList_inj]

theorem configures_deviceConfig (hendpoint : '\n' ∉ endpoint.toList) (hport : 0 ≤ listenPort) :
    Configures (deviceConfig privateKey peerPublicKey endpoint (listenPortConfig listenPort))
      privateKey peerPublicKey listenPort := by
  constructor <;> rw [configured_deviceConfig _ _ _ hendpoint hport, configFields] <;>
    split_ifs <;> simp [hexDecode_encodeKey]

end Text

end TunnelOperator
