import LocalPlay.Ldn.Network
import LocalPlay.Proofs.Ldn.NodeRoundTrip

set_option autoImplicit false

/-! # Records of networks

A network is read back from its record, except that a record has room for 384 bytes of the game's own
data and says how many of them it has (`Network.parse_toBytes`). In the other direction a record
that was read is written as it was, but for the bytes that mean nothing, which become zero, the flags
of the players, which become zero or one, and the size of the game's own data, which is cut to what
there is room for (`Network.toBytes_readFrom`). -/

namespace LocalPlay.Ldn

namespace Network

/-! ## The layout -/

theorem length_slots (v : Network) : (v.nodes.toList.flatMap Node.toBytes).length = 512 := by
  have length : (v.nodes.toList.flatMap Node.toBytes).length = slotCount * Node.size := by
    simp [List.length_flatMap, List.map_const']
  rw [length]
  rfl

/-- Where the parts of a record stand. -/
theorem carries_toBytes_iff {b : Bytes} {v : Network} :
    b.Carries 0 v.toBytes ↔
      b.Carries 0 (Bytes.le64 v.localCommunicationId) ∧ b.Carries 8 (Bytes.zeros 2) ∧
      b.Carries 0x0A (Bytes.le16 v.sceneId) ∧ b.Carries 0x0C (Bytes.zeros 4) ∧
      b.Carries 0x10 v.sessionId.bytes ∧ b.Carries 0x20 v.bssid.toBytes ∧
      b.Carries 0x26 [v.ssidLength] ∧ b.Carries 0x27 v.ssidField.bytes ∧
      b.Carries 0x48 (Bytes.le16 v.channel) ∧ b.Carries 0x4A [v.linkLevel, v.networkType] ∧
      b.Carries 0x4C (Bytes.zeros 4) ∧ b.Carries 0x50 v.securityParameter.bytes ∧
      b.Carries 0x60 (Bytes.le16 v.securityMode) ∧ b.Carries 0x62 [v.stationAcceptPolicy] ∧
      b.Carries 0x63 (Bytes.zeros 3) ∧ b.Carries 0x66 [v.nodeCountMax, v.nodeCount] ∧
      b.Carries nodesOffset (v.nodes.toList.flatMap Node.toBytes) ∧
      b.Carries 0x268 (Bytes.zeros 2) ∧
      b.Carries 0x26A (Bytes.ofNatLE 2 (min v.advertiseData.length advertiseLimit)) ∧
      b.Carries 0x26C (v.advertiseData.fit advertiseLimit) ∧ b.Carries 0x3EC (Bytes.zeros 140) ∧
      b.Carries 0x478 (Bytes.le64 v.authenticationId) := by
  simp only [toBytes, frontBytes, backBytes, Bytes.carries_append_iff, List.length_append,
    Bytes.length_le64, Bytes.length_zeros, Bytes.length_le16, MacAddress.length_toBytes,
    List.length_cons, List.length_nil, Block.length_bytes, length_slots, Bytes.length_ofNatLE,
    Bytes.length_fit, Nat.zero_add, nameSize, nodesOffset, advertiseLimit, Nat.reduceAdd, and_assoc]

/-! ## Reading what was written -/

/-- The network as its record has it. -/
def clipped (v : Network) : Network :=
  let data := v.advertiseData.take advertiseLimit
  { v with advertiseSize := UInt16.ofNat data.length, advertiseData := data }

/-- A network is read where its record stands. -/
theorem readFrom_of_carries {b : Bytes} {v : Network} (there : b.Carries 0 v.toBytes) :
    readFrom b = v.clipped := by
  obtain ⟨localCommunicationId, -, sceneId, -, sessionId, bssid, ssidLength, ssidField, channel,
    levels, -, securityParameter, securityMode, policy, -, counts, nodes, -, size, data, -,
    authenticationId⟩ := carries_toBytes_iff.1 there
  have ssidLength : b.byteAt 0x26 = v.ssidLength := ssidLength.byteAt_eq (j := 0) Nat.one_pos
  have linkLevel : b.byteAt 0x4A = v.linkLevel := levels.byteAt_eq (j := 0) Nat.two_pos
  have networkType : b.byteAt 0x4B = v.networkType := levels.byteAt_eq (j := 1) Nat.one_lt_two
  have policy : b.byteAt 0x62 = v.stationAcceptPolicy := policy.byteAt_eq (j := 0) Nat.one_pos
  have nodeCountMax : b.byteAt 0x66 = v.nodeCountMax := counts.byteAt_eq (j := 0) Nat.two_pos
  have nodeCount : b.byteAt 0x67 = v.nodeCount := counts.byteAt_eq (j := 1) Nat.one_lt_two
  have slots : Vector.ofFn (fun slot : Fin slotCount =>
      Node.readAt b (nodesOffset + slot * Node.size)) = v.nodes := by
    have each := (Bytes.carries_flatMap_iff Node.length_toBytes _).1 nodes
    refine Vector.ext fun k hk => ?_
    have there := Node.readAt_of_carries (each k (by simpa using hk))
    rw [Vector.getElem_ofFn, there, Vector.getElem_toList]
  have length : (v.advertiseData.take advertiseLimit).length
      = min v.advertiseData.length advertiseLimit := by
    rw [List.length_take, Nat.min_comm]
  have size : b.le16At 0x26A = UInt16.ofNat (v.advertiseData.take advertiseLimit).length := by
    have written : b.field 0x26A 2 = Bytes.ofNatLE 2 (min v.advertiseData.length advertiseLimit) :=
      size
    rw [Bytes.le16At, written, Bytes.toNatLE_ofNatLE, length]
    exact UInt16.ofNat_mod_size
  have data : b.field 0x26C (min (b.le16At 0x26A).toNat advertiseLimit)
      = v.advertiseData.take advertiseLimit := by
    have room : min v.advertiseData.length advertiseLimit < UInt16.size := by
      simp only [advertiseLimit, UInt16.size]
      omega
    have written : b.Carries 0x26C (v.advertiseData.take advertiseLimit) :=
      (Bytes.carries_append_iff.1 data).1
    rw [size, length, UInt16.toNat_ofNat_of_lt' room, Nat.min_eq_left (Nat.min_le_right ..), ← length]
    exact written
  rw [readFrom, Bytes.le64At_of_field localCommunicationId, Bytes.le16At_of_field sceneId,
    Block.ofBytes_of_carries sessionId, MacAddress.readAt_of_carries bssid, ssidLength,
    Block.ofBytes_of_carries ssidField, Bytes.le16At_of_field channel, linkLevel, networkType,
    Block.ofBytes_of_carries securityParameter, Bytes.le16At_of_field securityMode, policy,
    nodeCountMax, nodeCount, slots, data, size, Bytes.le64At_of_field authenticationId]
  rfl

@[simp] theorem length_toBytes (v : Network) : v.toBytes.length = size := by
  simp only [toBytes, backBytes, List.length_append, length_frontBytes, length_slots,
    Bytes.length_zeros, Bytes.length_ofNatLE, Bytes.length_fit, Bytes.length_le64, advertiseLimit,
    nodesOffset, size]

theorem parse_of_le {b : Bytes} (long : size ≤ b.length) : parse b = .ok (readFrom b) :=
  if_neg (Nat.not_lt.2 long)

/-- A network is read back from its record, as the record has it. -/
theorem parse_toBytes (v : Network) : parse v.toBytes = .ok v.clipped := by
  rw [parse_of_le (Nat.le_of_eq v.length_toBytes.symm),
    readFrom_of_carries (Bytes.carries_self _)]

/-- A record has the network as it is if there is room for the game's own data. -/
theorem clipped_eq_self {v : Network} (short : v.advertiseData.length ≤ advertiseLimit)
    (exact : v.advertiseSize.toNat = v.advertiseData.length) : v.clipped = v := by
  have data : v.advertiseData.take advertiseLimit = v.advertiseData := List.take_of_length_le short
  have size : UInt16.ofNat v.advertiseData.length = v.advertiseSize := by
    rw [← exact, UInt16.ofNat_toNat]
  simp only [clipped, data, size]

/-! ## Writing what was read -/

/-- The bytes of a record that belong to the players. -/
def InSlots (i : Nat) : Prop := nodesOffset ≤ i ∧ i < 0x268

instance : DecidablePred InSlots := fun _ => inferInstanceAs (Decidable (_ ∧ _))

/-- The bytes of a record that mean nothing. -/
def Reserved (i : Nat) : Prop :=
  (8 ≤ i ∧ i < 0x0A) ∨ (0x0C ≤ i ∧ i < 0x10) ∨ (0x4C ≤ i ∧ i < 0x50) ∨ (0x63 ≤ i ∧ i < 0x66) ∨
    (InSlots i ∧ Node.Reserved ((i - nodesOffset) % Node.size)) ∨ (0x268 ≤ i ∧ i < 0x26A) ∨
    (0x3EC ≤ i ∧ i < 0x478)

instance : DecidablePred Reserved := fun _ => inferInstanceAs (Decidable (_ ∨ _))

/-- How many bytes of the game's own data a record has. -/
def advertised (b : Bytes) : Nat := min (b.le16At 0x26A).toNat advertiseLimit

/-- What is written at offset `i` for a record that was read. -/
def keptByte (b : Bytes) (i : Nat) : UInt8 :=
  if InSlots i then Node.keptByte ((i - nodesOffset) % Node.size) (b.byteAt i)
  else if Reserved i then 0
  else if 0x26A ≤ i ∧ i < 0x26C then (Bytes.ofNatLE 2 (advertised b)).byteAt (i - 0x26A)
  else if 0x26C + advertised b ≤ i ∧ i < 0x3EC then 0
  else b.byteAt i

/-- A record as it is written when it was read. -/
def rewritten (b : Bytes) : Bytes := Bytes.tabulate size (keptByte b)

section Rewritten

variable {b : Bytes}

theorem keptByte_outside {i : Nat} (meant : ¬ Reserved i) (outside : i < nodesOffset ∨ 0x3EC ≤ i) :
    keptByte b i = b.byteAt i := by
  simp only [nodesOffset] at outside
  have slots : ¬ InSlots i := by
    simp only [InSlots, nodesOffset]
    omega
  rw [keptByte, if_neg slots, if_neg meant, if_neg (by omega), if_neg (by omega)]

theorem keptByte_reserved {i : Nat} (reserved : Reserved i) (slots : ¬ InSlots i) :
    keptByte b i = 0 := by
  rw [keptByte, if_neg slots, if_pos reserved]

theorem keptByte_slot {k j : Nat} (hk : k < slotCount) (hj : j < Node.size) :
    keptByte b (nodesOffset + k * Node.size + j)
      = Node.keptByte j (b.byteAt (nodesOffset + k * Node.size + j)) := by
  have slots : InSlots (nodesOffset + k * Node.size + j) := by
    simp only [InSlots, nodesOffset, slotCount, Node.size] at *
    omega
  have place : (nodesOffset + k * Node.size + j - nodesOffset) % Node.size = j := by
    simp only [nodesOffset, Node.size] at *
    omega
  rw [keptByte, if_pos slots, place]

theorem not_inSlots_of_le {i : Nat} (behind : 0x268 ≤ i) : ¬ InSlots i :=
  fun slots => Nat.not_lt.2 behind slots.2

theorem not_reserved_of_data {i : Nat} (first : 0x26A ≤ i) (last : i < 0x3EC) : ¬ Reserved i := by
  simp only [Reserved, InSlots]
  omega

theorem keptByte_size {j : Nat} (hj : j < 2) :
    keptByte b (0x26A + j) = (Bytes.ofNatLE 2 (advertised b)).byteAt j := by
  rw [keptByte, if_neg (not_inSlots_of_le (by omega)),
    if_neg (not_reserved_of_data (by omega) (by omega)), if_pos (by omega), Nat.add_sub_cancel_left]

theorem keptByte_data {j : Nat} (hj : j < advertised b) :
    keptByte b (0x26C + j) = b.byteAt (0x26C + j) := by
  have room : advertised b ≤ 384 := Nat.min_le_right ..
  rw [keptByte, if_neg (not_inSlots_of_le (by omega)),
    if_neg (not_reserved_of_data (by omega) (by omega)), if_neg (by omega), if_neg (by omega)]

theorem keptByte_room {j : Nat} (hj : j < advertiseLimit - advertised b) :
    keptByte b (0x26C + advertised b + j) = 0 := by
  have room : advertised b ≤ 384 := Nat.min_le_right ..
  simp only [advertiseLimit] at hj
  rw [keptByte, if_neg (not_inSlots_of_le (by omega)),
    if_neg (not_reserved_of_data (by omega) (by omega)), if_neg (by omega), if_pos (by omega)]

end Rewritten

section Pieces

variable {b : Bytes} {k n : Nat}

theorem rewritten_carries_field {x : Bytes} (long : size ≤ b.length)
    (same : k + n ≤ b.length → x = b.field k n) (fits : k + n ≤ size)
    (meant : ∀ j < n, ¬ Reserved (k + j) ∧ (k + j < nodesOffset ∨ 0x3EC ≤ k + j)) :
    (rewritten b).Carries k x := by
  have inside : k + n ≤ b.length := Nat.le_trans fits long
  rw [same inside]
  exact Bytes.carries_tabulate_field inside fits fun j hj =>
    keptByte_outside (meant j hj).1 (meant j hj).2

theorem rewritten_carries_zeros (fits : k + n ≤ size)
    (reserved : ∀ j < n, Reserved (k + j) ∧ ¬ InSlots (k + j)) :
    (rewritten b).Carries k (Bytes.zeros n) :=
  Bytes.carries_tabulate_zeros fits fun j hj => keptByte_reserved (reserved j hj).1 (reserved j hj).2

theorem rewritten_carries_slots (long : size ≤ b.length) :
    (rewritten b).Carries nodesOffset ((readFrom b).nodes.toList.flatMap Node.toBytes) := by
  refine (Bytes.carries_flatMap_iff Node.length_toBytes _).2 fun k hk => ?_
  have slot : k < slotCount := by simpa using hk
  have fits : nodesOffset + k * Node.size + Node.size ≤ size := by
    simp only [nodesOffset, slotCount, Node.size, size] at slot ⊢
    omega
  have node : (readFrom b).nodes[k] = Node.readAt b (nodesOffset + k * Node.size) :=
    Vector.getElem_ofFn slot
  rw [Vector.getElem_toList, node, Node.toBytes_readAt (Nat.le_trans fits long)]
  refine Bytes.carries_tabulate (by rwa [Node.rewritten, Bytes.length_tabulate]) fun j hj => ?_
  rw [Node.rewritten, Bytes.length_tabulate] at hj
  rw [keptByte_slot slot hj, Node.rewritten, Bytes.byteAt_tabulate hj]

theorem rewritten_carries_data (long : size ≤ b.length) :
    (rewritten b).Carries 0x26A
        (Bytes.ofNatLE 2 (min (readFrom b).advertiseData.length advertiseLimit)) ∧
      (rewritten b).Carries 0x26C ((readFrom b).advertiseData.fit advertiseLimit) := by
  have room : advertised b ≤ advertiseLimit := Nat.min_le_right ..
  have fits : 0x26C + advertised b + (advertiseLimit - advertised b) ≤ size := by
    simp only [advertiseLimit, size] at room ⊢
    omega
  have inside : 0x26C + advertised b ≤ b.length :=
    Nat.le_trans (Nat.le_trans (Nat.le_add_right ..) fits) long
  have data : (readFrom b).advertiseData = b.field 0x26C (advertised b) := rfl
  have length : (readFrom b).advertiseData.length = advertised b := by
    rw [data, Bytes.length_field_of_le inside]
  constructor
  · rw [length, Nat.min_eq_left room]
    refine Bytes.carries_tabulate (by rw [Bytes.length_ofNatLE]; decide) fun j hj => ?_
    exact keptByte_size (by rwa [Bytes.length_ofNatLE] at hj)
  · have all : (readFrom b).advertiseData.take advertiseLimit = b.field 0x26C (advertised b) := by
      rw [List.take_of_length_le (by rwa [length]), data]
    rw [Bytes.fit, Bytes.carries_append_iff, all, length, Bytes.length_field_of_le inside]
    refine ⟨Bytes.carries_tabulate_field inside (Nat.le_trans (Nat.le_add_right ..) fits) ?_,
      Bytes.carries_tabulate_zeros fits ?_⟩
    · intro j hj
      exact keptByte_data hj
    · intro j hj
      exact keptByte_room hj

end Pieces

/-- A record that was read is written as it was, but for what means nothing, the flags and the size of
    the game's own data. -/
theorem toBytes_readFrom {b : Bytes} (long : size ≤ b.length) :
    (readFrom b).toBytes = rewritten b := by
  have blank {k n : Nat} := rewritten_carries_zeros (b := b) (k := k) (n := n)
  have kept {k n : Nat} {x : Bytes} := rewritten_carries_field (k := k) (n := n) (x := x) long
  refine Bytes.eq_of_carries (carries_toBytes_iff.2 ?_) ?_
  · refine ⟨?localCommunicationId, blank (by decide) (by decide), ?sceneId,
      blank (by decide) (by decide), ?sessionId, ?bssid, ?ssidLength, ?ssidField, ?channel, ?levels,
      blank (by decide) (by decide), ?securityParameter, ?securityMode, ?policy,
      blank (by decide) (by decide), ?counts, rewritten_carries_slots long,
      blank (by decide) (by decide), (rewritten_carries_data long).1,
      (rewritten_carries_data long).2, blank (by decide) (by decide), ?authenticationId⟩
    case localCommunicationId => exact kept Bytes.le64_le64At (by decide) (by decide)
    case sceneId => exact kept Bytes.le16_le16At (by decide) (by decide)
    case sessionId => exact kept Block.bytes_ofBytes_field (by decide) (by decide)
    case bssid => exact kept MacAddress.toBytes_readAt (by decide) (by decide)
    case ssidLength => exact kept Bytes.singleton_byteAt (by decide) (by decide)
    case ssidField => exact kept Block.bytes_ofBytes_field (by decide) (by decide)
    case channel => exact kept Bytes.le16_le16At (by decide) (by decide)
    case levels => exact kept Bytes.pair_byteAt (by decide) (by decide)
    case securityParameter => exact kept Block.bytes_ofBytes_field (by decide) (by decide)
    case securityMode => exact kept Bytes.le16_le16At (by decide) (by decide)
    case policy => exact kept Bytes.singleton_byteAt (by decide) (by decide)
    case counts => exact kept Bytes.pair_byteAt (by decide) (by decide)
    case authenticationId => exact kept Bytes.le64_le64At (by decide) (by decide)
  · rw [length_toBytes, rewritten, Bytes.length_tabulate]

theorem toBytes_clipped (v : Network) : v.clipped.toBytes = v.toBytes := by
  have length : min (min advertiseLimit v.advertiseData.length) advertiseLimit
      = min v.advertiseData.length advertiseLimit := by omega
  have gap : advertiseLimit - min advertiseLimit v.advertiseData.length
      = advertiseLimit - v.advertiseData.length := by omega
  have back : v.clipped.backBytes = v.backBytes := by
    simp only [backBytes, clipped, Bytes.fit, List.take_take, Nat.min_self, List.length_take,
      length, gap]
  rw [toBytes, toBytes, back]
  rfl

/-! ## What is not looked at -/

section Alike

variable {b b' : Bytes}

theorem nodeReserved_of_reserved {i : Nat} (slots : InSlots i) (reserved : Reserved i) :
    Node.Reserved ((i - nodesOffset) % Node.size) := by
  rcases reserved with h | h | h | h | ⟨-, h⟩ | h | h
  case inr.inr.inr.inr.inl => exact h
  all_goals
    simp only [InSlots, nodesOffset] at slots
    omega

/-- Two records that differ only in what means nothing are written alike. -/
theorem rewritten_congr (sameSize : b.le16At 0x26A = b'.le16At 0x26A)
    (same : ∀ i < size, ¬ Reserved i → b.byteAt i = b'.byteAt i) : rewritten b = rewritten b' := by
  refine Bytes.tabulate_congr fun i hi => ?_
  unfold keptByte advertised
  rw [sameSize]
  by_cases slots : InSlots i
  · rw [if_pos slots, if_pos slots]
    refine Node.keptByte_congr fun meant => same i hi ?_
    exact fun reserved => meant (nodeReserved_of_reserved slots reserved)
  · rw [if_neg slots, if_neg slots]
    by_cases reserved : Reserved i
    · rw [if_pos reserved, if_pos reserved]
    · rw [same i hi reserved]

/-- All that a record says about a network is in the network as its record has it, but for the size
    that the record gives for the game's own data. -/
theorem readFrom_eq_clipped (b : Bytes) :
    readFrom b = { (readFrom b).clipped with advertiseSize := b.le16At 0x26A } := by
  have short : (readFrom b).advertiseData.length ≤ advertiseLimit :=
    Nat.le_trans (List.length_take_le ..) (Nat.min_le_right ..)
  simp only [clipped, List.take_of_length_le short]
  rfl

/-- What is read does not depend on bytes that mean nothing. -/
theorem readFrom_congr (long : size ≤ b.length) (long' : size ≤ b'.length)
    (same : ∀ i < size, ¬ Reserved i → b.byteAt i = b'.byteAt i) : readFrom b = readFrom b' := by
  have sameSize : b.le16At 0x26A = b'.le16At 0x26A := by
    have reach : 0x26A + 2 ≤ size := by decide
    rw [Bytes.le16At, Bytes.le16At, Bytes.field_congr (Nat.le_trans reach long)
      (Nat.le_trans reach long') fun j hj => ?_]
    have data : 0x26A + j < 0x3EC := by omega
    exact same _ (by simp only [size]; omega) (not_reserved_of_data (Nat.le_add_right ..) data)
  have sameNetwork : (readFrom b).clipped = (readFrom b').clipped := by
    have written : (readFrom b).toBytes = (readFrom b').toBytes := by
      rw [toBytes_readFrom long, toBytes_readFrom long', rewritten_congr sameSize same]
    rw [← readFrom_of_carries (Bytes.carries_self (readFrom b).toBytes), written,
      readFrom_of_carries (Bytes.carries_self _)]
  rw [readFrom_eq_clipped b, readFrom_eq_clipped b', sameNetwork, sameSize]

end Alike

theorem normalizes : Normalizes parse toBytes size Reserved rewritten where
  rewrites b long := by
    rw [parse_of_le long]
    exact congrArg Except.ok (toBytes_readFrom long)
  settles b long := by
    rw [← toBytes_readFrom long, parse_toBytes]
    exact congrArg Except.ok (toBytes_clipped _)
  ignores b b' long long' same := by
    rw [parse_of_le long, parse_of_le long', readFrom_congr long long' same]

end Network

/-- **Records go round.** A node is read back from its record as it is, and a network with the first
    384 bytes of the game's own data and their size, which is all of it if that is how it was. And
    a record that was read is written again byte by byte, but for the reserved bytes, the flags of
    the players and what there is no room for. -/
theorem records_round_trip :
    (∀ n : Node, Node.parse n.toBytes = .ok n) ∧
    (∀ v : Network, Network.parse v.toBytes = .ok v.clipped ∧
      (v.advertiseData.length ≤ advertiseLimit →
        v.advertiseSize.toNat = v.advertiseData.length → Network.parse v.toBytes = .ok v)) ∧
    Normalizes Node.parse Node.toBytes Node.size Node.Reserved (Node.rewritten · 0) ∧
    Normalizes Network.parse Network.toBytes Network.size Network.Reserved Network.rewritten := by
  refine ⟨Node.parse_toBytes, fun v => ⟨v.parse_toBytes, fun short exact => ?_⟩, Node.normalizes,
    Network.normalizes⟩
  rw [Network.parse_toBytes, Network.clipped_eq_self short exact]

/-- Of bytes whose bits are all set, a node keeps a flag that is one, and a network the most data that
    there can be; what means nothing is zero. -/
theorem records_round_trip_ones :
    Node.size ≤ (List.replicate 64 (0xFF : UInt8)).length ∧
      (Node.parse (List.replicate 64 0xFF)).map Node.toBytes
        = .ok (List.replicate 11 0xFF ++ [1] ++ List.replicate 33 0xFF ++ [0] ++ [0xFF, 0xFF]
          ++ Bytes.zeros 16) ∧
    Network.size ≤ (List.replicate 0x480 (0xFF : UInt8)).length ∧
      (Network.parse (List.replicate 0x480 0xFF)).map (fun v => v.toBytes.field 0x268 6)
        = .ok [0, 0, 0x80, 1, 0xFF, 0xFF] := by
  obtain ⟨-, -, node, network⟩ := records_round_trip
  have long : Network.size ≤ (List.replicate 0x480 (0xFF : UInt8)).length := by
    rw [List.length_replicate]
    decide
  refine ⟨by decide, ?_, long, ?_⟩
  · rw [node.rewrites _ (by decide)]
    rfl
  · have written := network.rewrites _ long
    have kept : (Network.rewritten (List.replicate 0x480 0xFF)).field 0x268 6
        = [0, 0, 0x80, 1, 0xFF, 0xFF] := by decide +kernel
    cases parsed : Network.parse (List.replicate 0x480 0xFF) with
    | error why =>
      rw [parsed] at written
      cases written
    | ok v =>
      rw [parsed] at written
      have same : v.toBytes = Network.rewritten (List.replicate 0x480 0xFF) := Except.ok.inj written
      show Except.ok (v.toBytes.field 0x268 6) = Except.ok [0, 0, 0x80, 1, 0xFF, 0xFF]
      rw [same, kept]

end LocalPlay.Ldn
