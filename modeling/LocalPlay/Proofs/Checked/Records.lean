import LocalPlay.Ldn.Frame
import LocalPlay.Ldn.Network
import LocalPlay.Proofs.Checked.Basic
import LocalPlay.Proofs.Ldn.NodeRoundTrip

set_option autoImplicit false

/-! # The console's own protocol, checked

Frames of consoles and the records in them are copied as they are read. The reader of the compressed
form adds to what it has expanded, and looks at the length before it adds; the sum that it looks at
fits, since what there is already is within the limit. -/

namespace LocalPlay.Checked

open Ldn

/-! ## The compressed form -/

/-- Expands the compressed form behind what was expanded before. -/
def expand (output : Bytes) : Bytes → Checked (Except RunFault Bytes)
  | [] => return .ok output
  | b :: rest =>
    if b = 0 then
      match rest with
      | [] => return .error .danglingMarker
      | count :: rest' => do
        let size ← add lengthBits count.toNat 1
        let total ← add lengthBits output.length size
        if ZeroRun.bufferLimit < total then return .error (.expandedTooLong ZeroRun.bufferLimit)
        expand (output ++ Bytes.zeros size) rest'
    else do
      let total ← add lengthBits output.length 1
      if ZeroRun.bufferLimit < total then return .error (.expandedTooLong ZeroRun.bufferLimit)
      expand (output ++ [b]) rest

/-- Expands the compressed form. Room is made for twice its length first, up to the limit. -/
def decompress (b : Bytes) : Checked (Except RunFault Bytes) := do
  let _ ← mul lengthBits b.length 2
  expand [] b

/-- What was expanded before stands in front of what is expanded now. -/
theorem map_append_map_append (front next : Bytes) (expanded : Except RunFault Bytes) :
    (expanded.map (next ++ ·)).map (front ++ ·) = expanded.map ((front ++ next) ++ ·) := by
  cases expanded with
  | error why => rfl
  | ok b => exact congrArg Except.ok (List.append_assoc ..).symm

/-- With what was expanded before, the room that is left makes the limit. -/
theorem expand_eq {output : Bytes} {room : Nat}
    (limit : output.length + room = ZeroRun.bufferLimit) (b : Bytes) :
    expand output b = pure ((ZeroRun.expandWithin room b).map (output ++ ·)) := by
  have limited : output.length + room = 2048 := limit
  -- What a token adds to the output it takes from the room, so `limit` holds of the rest again.
  fun_induction ZeroRun.expandWithin room b generalizing output with
  | case1 room =>
    rw [expand, Except.map, List.append_nil]
  | case2 room =>
    rfl
  | case3 room count rest size =>
    rename_i full
    have octet := count.toNat_lt
    have tooLong : ZeroRun.bufferLimit < output.length + (count.toNat + 1) := by
      rw [← limit]
      omega
    rw [expand.eq_def]
    simp only [if_true]
    rw [add_length_eq (by omega) (by decide), pure_bind, add_length_eq (by omega) (by omega),
      pure_bind, if_pos tooLong]
    rfl
  | case4 room count rest size fits =>
    rename_i ih
    have octet := count.toNat_lt
    have allowed : ¬ ZeroRun.bufferLimit < output.length + (count.toNat + 1) := by omega
    have longer : (output ++ Bytes.zeros (count.toNat + 1)).length
        = output.length + (count.toNat + 1) := by
      rw [List.length_append, Bytes.length_zeros]
    rw [expand.eq_def]
    simp only [if_true]
    rw [add_length_eq (by omega) (by decide), pure_bind, add_length_eq (by omega) (by omega),
      pure_bind, if_neg allowed, ih (by omega) (by omega), map_append_map_append]
  | case5 room b rest nonzero full =>
    have tooLong : ZeroRun.bufferLimit < output.length + 1 := by omega
    rw [expand.eq_def]
    simp only [if_neg nonzero]
    rw [add_length_eq (by omega) (by decide), pure_bind, if_pos tooLong]
    rfl
  | case6 room b rest nonzero fits ih =>
    have allowed : ¬ ZeroRun.bufferLimit < output.length + 1 := by omega
    have longer : (output ++ [b]).length = output.length + 1 := List.length_append
    rw [expand.eq_def]
    simp only [if_neg nonzero]
    rw [add_length_eq (by omega) (by decide), pure_bind, if_neg allowed, ih (by omega) (by omega),
      ← map_append_map_append]
    rfl

theorem decompress_eq {b : Bytes} (addressable : b.length < 2 ^ 63) :
    decompress b = pure (ZeroRun.decompress b) := by
  have twice : b.length * 2 < 2 ^ lengthBits := by
    simp only [lengthBits]
    omega
  have expanded : (ZeroRun.decompress b).map ([] ++ ·) = ZeroRun.decompress b := by
    cases ZeroRun.decompress b <;> rfl
  rw [decompress, mul_eq twice, pure_bind, expand_eq (Nat.zero_add _), ← ZeroRun.decompress, expanded]

/-! ## Frames -/

def ldnFrame (b : Bytes) : Checked (Except Failure Frame) :=
  if b.length < headerSize then return .error (.malformed (.ldnTooShort b.length))
  else do
    let found ← le32 b 0
    if found ≠ mark then return .error (.malformed (.ldnMagic found))
    let kind ← byte b 4
    let compressed := (← byte b 5) == 1
    let length ← le16 b 6
    let expandedLength ← le16 b 8
    let stop ← add lengthBits headerSize length.toNat
    if b.length < stop then
      return .error (.malformed (.ldnLength length.toNat (← sub b.length headerSize)))
    let raw ← slice b headerSize stop
    match ← (if compressed ∧ raw ≠ [] then decompress raw else return .ok raw) with
    | .error why => return .error (.runs why)
    | .ok payload => return .ok ⟨kind, compressed, length, expandedLength, payload⟩

/-- A body is expanded only if there is one; nothing expands to nothing. -/
theorem expandBody_eq {compressed : Bool} {body : Bytes} (addressable : body.length < 2 ^ 63) :
    (if compressed ∧ body ≠ [] then decompress body else return .ok body)
      = pure (Frame.expandBody compressed body) := by
  rw [Frame.expandBody]
  cases compressed with
  | false => rfl
  | true =>
    cases body with
    | nil => rfl
    | cons x body =>
      rw [if_pos ⟨rfl, List.cons_ne_nil x body⟩, decompress_eq addressable]
      rfl

theorem ldnFrame_eq (b : Bytes) : ldnFrame b = pure (Frame.parse b) := by
  simp only [ldnFrame, Frame.parse]
  by_cases short : b.length < headerSize
  · rw [if_pos short, if_pos short]
  have header : headerSize ≤ b.length := Nat.le_of_not_lt short
  have long : 12 ≤ b.length := header
  rw [if_neg short, if_neg short, le32_eq (by omega), pure_bind]
  by_cases foreign : b.le32At 0 ≠ mark
  · rw [if_pos foreign, if_pos foreign]
  have declared := (b.le16At 6).toNat_lt
  rw [if_neg foreign, if_neg foreign, byte_eq (by omega), pure_bind, byte_eq (by omega), pure_bind,
    le16_eq (by omega), pure_bind, le16_eq (by omega), pure_bind,
    add_length_eq (by decide) (by omega), pure_bind]
  by_cases cut : b.length < headerSize + (b.le16At 6).toNat
  · rw [if_pos cut, if_pos cut, sub_eq header, pure_bind]
  have inside : headerSize + (b.le16At 6).toNat ≤ b.length := Nat.le_of_not_lt cut
  have body : (b.field headerSize (b.le16At 6).toNat).length < 2 ^ 63 := by
    rw [Bytes.length_field_of_le inside]
    omega
  rw [if_neg cut, if_neg cut, slice_add_eq inside, pure_bind, expandBody_eq body, pure_bind]
  cases Frame.expandBody (b.byteAt 5 == 1) (b.field headerSize (b.le16At 6).toNat) <;> rfl

/-! ## Nodes -/

def node (b : Bytes) : Checked (Except Malformed Node) :=
  if b.length < Node.size then return .error (.recordTooShort "NodeInfo" Node.size b.length)
  else do
    return .ok {
      ip := ⟨← le32Copy b 0⟩
      mac := ← mac b 4
      id := ← byte b 10
      connected := (← byte b 11) != 0
      userNameField := ← block nameSize b 12
      version := ← le16 b 46 }

theorem node_eq (b : Bytes) : node b = pure (Node.parse b) := by
  rw [node, Node.parse]
  by_cases short : b.length < Node.size
  · rw [if_pos short, if_pos short]
  · have long : 64 ≤ b.length := Nat.le_of_not_lt short
    have name : 12 + nameSize ≤ b.length := Nat.le_trans (by decide) long
    rw [if_neg short, if_neg short, le32Copy_eq (by omega), pure_bind, mac_eq (by omega), pure_bind,
      byte_eq (by omega), pure_bind, byte_eq (by omega), pure_bind, block_eq name, pure_bind,
      le16_eq (by omega), pure_bind]
    rfl

/-! ## Networks -/

/-- The first `count` players, each from a slice of its own. -/
def players (b : Bytes) : (count : Nat) → Checked (Except Malformed (Vector Node count))
  | 0 => return .ok #v[]
  | slot + 1 => do
    match ← players b slot with
    | .error why => return .error why
    | .ok nodes =>
      let start ← add lengthBits Network.nodesOffset (← mul lengthBits slot Node.size)
      match ← node (← slice b start (← add lengthBits start Node.size)) with
      | .error why => return .error why
      | .ok last => return .ok (nodes.push last)

theorem players_eq {b : Bytes} (long : Network.size ≤ b.length) {count : Nat}
    (few : count ≤ slotCount) :
    players b count = pure (.ok (.ofFn fun slot : Fin count =>
      Node.readAt b (Network.nodesOffset + slot * Node.size))) := by
  induction count with
  | zero => rfl
  | succ slot ih =>
    have within : slot < 8 := few
    have size : 1152 ≤ b.length := long
    have offset : slot * 64 < 2 ^ 63 := by omega
    have inside : 0x68 + slot * 64 + 64 ≤ b.length := by omega
    -- A node that is read from its slice is the node that is read at its offset.
    have player : Node.readAt (b.field (0x68 + slot * 64) 64) 0
        = Node.readAt b (0x68 + slot * 64) := by
      refine Node.readAt_congr (Nat.le_of_eq ?_) inside fun j within _ => ?_
      · rw [Bytes.length_field_of_le inside]
        rfl
      · rw [Nat.zero_add]
        exact Bytes.byteAt_field within b _
    rw [players, ih (Nat.le_of_lt few), pure_bind]
    simp only [Node.size, Network.nodesOffset]
    rw [mul_eq (by simp only [lengthBits]; omega), pure_bind, add_length_eq (by decide) (by omega),
      pure_bind, add_length_eq (by omega) (by decide), pure_bind, slice_add_eq inside, pure_bind,
      node_eq, pure_bind, Node.parse_of_le (Nat.le_of_eq (Bytes.length_field_of_le inside).symm),
      player, Vector.ofFn_succ]
    rfl

def network (b : Bytes) : Checked (Except Malformed Network) :=
  if b.length < Network.size then
    return .error (.recordTooShort "NetworkInfo" Network.size b.length)
  else do
    match ← players b slotCount with
    | .error why => return .error why
    | .ok nodes =>
      let advertiseSize ← le16 b 0x26A
      let advertised := min advertiseSize.toNat advertiseLimit
      return .ok {
        localCommunicationId := ← le64Copy b 0
        sceneId := ← le16 b 0x0A
        sessionId := ← block 16 b 0x10
        bssid := ← mac b 0x20
        ssidLength := ← byte b 0x26
        ssidField := ← block nameSize b 0x27
        channel := ← le16 b 0x48
        linkLevel := ← byte b 0x4A
        networkType := ← byte b 0x4B
        securityParameter := ← block 16 b 0x50
        securityMode := ← le16 b 0x60
        stationAcceptPolicy := ← byte b 0x62
        nodeCountMax := ← byte b 0x66
        nodeCount := ← byte b 0x67
        nodes := nodes
        advertiseSize := advertiseSize
        advertiseData := ← slice b 0x26C (← add lengthBits 0x26C advertised)
        authenticationId := ← le64Copy b 0x478 }

theorem network_eq (b : Bytes) : network b = pure (Network.parse b) := by
  rw [network, Network.parse]
  by_cases short : b.length < Network.size
  · rw [if_pos short, if_pos short]
  have size : Network.size ≤ b.length := Nat.le_of_not_lt short
  have long : 1152 ≤ b.length := size
  have name : 0x27 + nameSize ≤ b.length := Nat.le_trans (by decide) long
  have advertised : min (b.le16At 0x26A).toNat advertiseLimit ≤ 384 := Nat.min_le_right ..
  rw [if_neg short, if_neg short, players_eq size (Nat.le_refl _), pure_bind]
  simp only
  rw [le16_eq (by omega), pure_bind, le64Copy_eq (by omega), pure_bind, le16_eq (by omega), pure_bind,
    block_eq (by omega), pure_bind, mac_eq (by omega), pure_bind, byte_eq (by omega), pure_bind,
    block_eq name, pure_bind, le16_eq (by omega), pure_bind, byte_eq (by omega), pure_bind,
    byte_eq (by omega), pure_bind, block_eq (by omega), pure_bind, le16_eq (by omega), pure_bind,
    byte_eq (by omega), pure_bind, byte_eq (by omega), pure_bind, byte_eq (by omega), pure_bind,
    add_length_eq (by decide) (by omega), pure_bind, slice_add_eq (by omega), pure_bind,
    le64Copy_eq (by omega), pure_bind]
  rfl

end LocalPlay.Checked
