import LocalPlay.Ldn.Node

set_option autoImplicit false

/-! # Networks

The record that describes a hosted game: 1152 bytes, numbers written least significant byte first,
unused bytes zero. It names the game and the radio channel it once was on, lists up to eight
players, and carries data of the game's own for those who look for a game to join. -/

namespace LocalPlay.Ldn

def slotCount : Nat := 8

/-- The most bytes of a game's own data. -/
def advertiseLimit : Nat := 384

structure Network where
  /-- Which game is played. -/
  localCommunicationId : UInt64 := 0
  sceneId : UInt16 := 0
  /-- Tells two sessions of one game apart. -/
  sessionId : Block 16 := default
  bssid : MacAddress := .zero
  /-- How many bytes of the name field count. -/
  ssidLength : UInt8 := 0
  /-- The field that holds the network's name. -/
  ssidField : Block nameSize := default
  channel : UInt16 := 0
  linkLevel : UInt8 := 0
  networkType : UInt8 := 0
  securityParameter : Block 16 := default
  securityMode : UInt16 := 0
  /-- Whom the host accepts. -/
  stationAcceptPolicy : UInt8 := 0
  /-- How many players may take part. -/
  nodeCountMax : UInt8 := 8
  nodeCount : UInt8 := 0
  /-- The players, by their place. -/
  nodes : Vector Node slotCount := .replicate slotCount {}
  /-- How long the game's own data is, as the record says. -/
  advertiseSize : UInt16 := 0
  /-- The game's own data. -/
  advertiseData : Bytes := []
  /-- Lets guests tell that they talk to the host. -/
  authenticationId : UInt64 := 0
deriving DecidableEq, Repr

namespace Network

def size : Nat := 0x480

/-- Where the players' records begin. -/
def nodesOffset : Nat := 0x68

/-- The record at the start of a byte string; bytes past the end count as zero. -/
def readFrom (b : Bytes) : Network where
  localCommunicationId := b.le64At 0
  sceneId := b.le16At 0x0A
  sessionId := .ofBytes 16 (b.field 0x10 16)
  bssid := .readAt b 0x20
  ssidLength := b.byteAt 0x26
  ssidField := .ofBytes nameSize (b.field 0x27 nameSize)
  channel := b.le16At 0x48
  linkLevel := b.byteAt 0x4A
  networkType := b.byteAt 0x4B
  securityParameter := .ofBytes 16 (b.field 0x50 16)
  securityMode := b.le16At 0x60
  stationAcceptPolicy := b.byteAt 0x62
  nodeCountMax := b.byteAt 0x66
  nodeCount := b.byteAt 0x67
  nodes := .ofFn fun slot => .readAt b (nodesOffset + slot * Node.size)
  advertiseSize := b.le16At 0x26A
  advertiseData := b.field 0x26C (min (b.le16At 0x26A).toNat advertiseLimit)
  authenticationId := b.le64At 0x478

/-- Reads a record; what follows it is left alone. -/
def parse (b : Bytes) : Except Malformed Network :=
  if b.length < size then .error (.recordTooShort "NetworkInfo" size b.length)
  else .ok (readFrom b)

/-- The part of a record before the players. -/
def frontBytes (v : Network) : Bytes :=
  Bytes.le64 v.localCommunicationId ++ Bytes.zeros 2 ++ Bytes.le16 v.sceneId ++ Bytes.zeros 4
    ++ v.sessionId.bytes ++ v.bssid.toBytes ++ [v.ssidLength] ++ v.ssidField.bytes
    ++ Bytes.le16 v.channel ++ [v.linkLevel, v.networkType] ++ Bytes.zeros 4
    ++ v.securityParameter.bytes ++ Bytes.le16 v.securityMode ++ [v.stationAcceptPolicy]
    ++ Bytes.zeros 3 ++ [v.nodeCountMax, v.nodeCount]

/-- The part of a record after the players. Data past the limit is left out, and the size that is
written is that of the data. -/
def backBytes (v : Network) : Bytes :=
  Bytes.zeros 2 ++ Bytes.ofNatLE 2 (min v.advertiseData.length advertiseLimit)
    ++ v.advertiseData.fit advertiseLimit ++ Bytes.zeros 140 ++ Bytes.le64 v.authenticationId

def toBytes (v : Network) : Bytes :=
  v.frontBytes ++ v.nodes.toList.flatMap Node.toBytes ++ v.backBytes

@[simp] theorem length_frontBytes (v : Network) : v.frontBytes.length = nodesOffset := by
  simp [frontBytes, v.sessionId.length_bytes, v.ssidField.length_bytes,
    v.securityParameter.length_bytes, nameSize, nodesOffset]

def ssid (v : Network) : String :=
  Text.ofNulTerminated (v.ssidField.bytes.take v.ssidLength.toNat)

/-- The players that take part, by their place. -/
def connectedNodes (v : Network) : List Node := v.nodes.toList.filter Node.connected

end Network

end LocalPlay.Ldn
