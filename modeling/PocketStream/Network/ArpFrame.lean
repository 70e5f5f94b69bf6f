import PocketStream.Address.Octets

/-! # Captured address announcements

The capture hands over a blob with a packet inside it. A packet is read as an Ethernet frame
that carries an announcement or, for one packet type, as the bare announcement. The two are
told apart by two bytes, which are the end of the sender's address in a bare announcement.
-/

namespace PocketStream

open Foundation

/-- Opcode, sender hardware address and sender address. -/
abbrev ArpSender := UInt16 × MacBytes × Ipv4Addr

/-- The bytes of a packet in its blob, if all of them are there. -/
def checkedPacketRange (blobLen packetOffset packetLength : ℕ) : Option (ℕ × ℕ) :=
  if packetLength = 0 then none
  else do
    let stop ← checkedAdd packetOffset packetLength
    if stop > blobLen then none else return (packetOffset, stop)

def parseArpHeader (arp : List UInt8) : Bounded (Option ArpSender) := do
  if arp.length < 28 then return none
  else if be16 (← index arp 0) (← index arp 1) ≠ 1 ∨
      be16 (← index arp 2) (← index arp 3) ≠ 0x0800 ∨
      (← index arp 4) ≠ 6 ∨ (← index arp 5) ≠ 4 then return none
  else
    let op := be16 (← index arp 6) (← index arp 7)
    let mac ← MacBytes.copyFromSlice (← slice arp 8 14)
    let ip := Ipv4Addr.new (← index arp 14) (← index arp 15) (← index arp 16) (← index arp 17)
    if mac = MacBytes.broadcast then return none else return some (op, mac, ip)

/-- An Ethernet II frame behind its two addresses, wherever it has an ethertype. -/
def parseArpPacket (data : List UInt8) : Bounded (Option (Ipv4Addr × MacBytes)) := do
  if data.length < 42 then return none
  else if be16 (← index data 12) (← index data 13) ≠ 0x0806 then return none
  else match ← parseArpHeader (← slice data 14 data.length) with
    | none => return none
    | some (_, mac, ip) => return some (ip, mac)

/-- The first condition of `extract_arp`. -/
def looksLikeArpFrame (frame : List UInt8) : Bounded Bool := do
  if frame.length < 42 then return false
  else return (← index frame 12) = 0x08 ∧ (← index frame 13) = 0x06

def extractArp (frame : List UInt8) (packetType : UInt16) : Bounded (Option ArpSender) := do
  if ← looksLikeArpFrame frame then
    match ← parseArpPacket frame with
    | none => return none
    | some (ip, mac) => return some (be16 (← index frame 20) (← index frame 21), mac, ip)
  else if packetType = 7 ∧ 28 ≤ frame.length then parseArpHeader frame
  else return none

/-- What the data callback makes of a packet of a blob. -/
def capturedArp (blob : Region) (packetOffset packetLength : ℕ) (packetType : UInt16) :
    Bounded (Option ArpSender) := do
  match checkedPacketRange blob.bytes.length packetOffset packetLength with
  | none => return none
  | some (frameStart, frameEnd) => extractArp (← slice blob.bytes frameStart frameEnd) packetType

/-! ## What an announcement is -/

/-- The fields of an announcement, as they stand one after the other. -/
structure ArpHeader where
  hardware : UInt16
  protocol : UInt16
  hardwareLength : UInt8
  protocolLength : UInt8
  opcode : UInt16
  senderMac : MacBytes
  senderIp : Ipv4Addr
  targetMac : MacBytes
  targetIp : Ipv4Addr

namespace ArpHeader

def encode (h : ArpHeader) : List UInt8 :=
  be16Bytes h.hardware ++ be16Bytes h.protocol ++ [h.hardwareLength, h.protocolLength] ++
    be16Bytes h.opcode ++ h.senderMac.toList ++ h.senderIp.octets ++ h.targetMac.toList ++
    h.targetIp.octets

def sender (h : ArpHeader) : ArpSender := (h.opcode, h.senderMac, h.senderIp)

/-- IPv4 over Ethernet, from a sender that is one host. -/
def Announces (h : ArpHeader) : Prop :=
  h.hardware = 1 ∧ h.protocol = 0x0800 ∧ h.hardwareLength = 6 ∧ h.protocolLength = 4 ∧
    h.senderMac ≠ MacBytes.broadcast

instance (h : ArpHeader) : Decidable h.Announces := inferInstanceAs (Decidable (_ ∧ _))

@[simp] theorem length_encode (h : ArpHeader) : h.encode.length = 28 := rfl

theorem exists_encode {bytes : List UInt8} (h : 28 ≤ bytes.length) :
    ∃ (header : ArpHeader) (pad : List UInt8), bytes = header.encode ++ pad := by
  obtain ⟨hardware, _, rfl, h₁⟩ := exists_be16Bytes (n := 26) h
  obtain ⟨protocol, _, rfl, h₂⟩ := exists_be16Bytes (n := 24) h₁
  obtain ⟨hardwareLength, _, rfl, h₃⟩ := exists_cons h₂
  obtain ⟨protocolLength, _, rfl, h₄⟩ := exists_cons h₃
  obtain ⟨opcode, _, rfl, h₅⟩ := exists_be16Bytes (n := 20) h₄
  obtain ⟨senderMac, _, rfl, h₆⟩ := MacBytes.exists_toList (n := 14) h₅
  obtain ⟨senderIp, _, rfl, h₇⟩ := Ipv4Addr.exists_octets (n := 10) h₆
  obtain ⟨targetMac, _, rfl, h₈⟩ := MacBytes.exists_toList (n := 4) h₇
  obtain ⟨targetIp, pad, rfl, -⟩ := Ipv4Addr.exists_octets (n := 0) h₈
  exact ⟨⟨hardware, protocol, hardwareLength, protocolLength, opcode, senderMac, senderIp,
    targetMac, targetIp⟩, pad, by simp [encode]⟩

end ArpHeader

/-- The bytes are an announcement, padded. -/
def DirectArp (bytes : List UInt8) (v : ArpSender) : Prop :=
  ∃ (h : ArpHeader) (pad : List UInt8), bytes = h.encode ++ pad ∧ h.Announces ∧ v = h.sender

/-- The bytes are an Ethernet II frame of ethertype `0x0806` with an announcement, padded. -/
def EthernetArp (bytes : List UInt8) (v : ArpSender) : Prop :=
  ∃ addresses payload : List UInt8, addresses.length = 12 ∧
    bytes = addresses ++ be16Bytes 0x0806 ++ payload ∧ DirectArp payload v

@[simp] theorem copyFromSlice_toList (mac : MacBytes) :
    MacBytes.copyFromSlice mac.toList = .ok mac := rfl

theorem slice_senderMac (h : ArpHeader) (pad : List UInt8) :
    slice (h.encode ++ pad) 8 14 = .ok h.senderMac.toList := by
  rw [slice_ok (by decide) (by simp; omega)]
  rfl

theorem parseArpHeader_encode (h : ArpHeader) (pad : List UInt8) :
    parseArpHeader (h.encode ++ pad) = .ok (if h.Announces then some h.sender else none) := by
  have hlen : ¬ (h.encode ++ pad).length < 28 := by simp
  unfold parseArpHeader
  rw [if_neg hlen, slice_senderMac]
  simp only [ArpHeader.encode, be16Bytes, MacBytes.toList, Ipv4Addr.octets, List.cons_append,
    List.nil_append, index, List.getElem?_cons_zero, List.getElem?_cons_succ, bind, Except.bind,
    pure, Except.pure, be16_be16Bytes, MacBytes.copyFromSlice]
  by_cases hfields : h.hardware = 1 ∧ h.protocol = 0x0800 ∧ h.hardwareLength = 6 ∧
    h.protocolLength = 4
  · obtain ⟨h₁, h₂, h₃, h₄⟩ := hfields
    rw [if_neg (by simp [h₁, h₂, h₃, h₄])]
    by_cases hmac : h.senderMac = MacBytes.broadcast
    · rw [if_pos hmac, if_neg fun ha => ha.2.2.2.2 hmac]
    · rw [if_neg hmac, if_pos ⟨h₁, h₂, h₃, h₄, hmac⟩]
      rfl
  · rw [if_pos (by tauto), if_neg fun ha => hfields ⟨ha.1, ha.2.1, ha.2.2.1, ha.2.2.2.1⟩]

/-- A parse of the header never reads outside, and finds just what is announced. -/
theorem parseArpHeader_spec (arp : List UInt8) :
    ∃ r, parseArpHeader arp = .ok r ∧ ∀ v, r = some v ↔ DirectArp arp v := by
  rcases Nat.lt_or_ge arp.length 28 with hlen | hlen
  · refine ⟨none, by simp [parseArpHeader, hlen, pure, Except.pure], fun v => ?_⟩
    constructor
    · simp
    · rintro ⟨h, pad, rfl, -⟩
      rw [List.length_append, ArpHeader.length_encode] at hlen
      omega
  · obtain ⟨h, pad, rfl⟩ := ArpHeader.exists_encode hlen
    refine ⟨_, parseArpHeader_encode h pad, fun v => ?_⟩
    constructor
    · intro hv
      obtain ⟨hannounces, hv⟩ := Option.ite_none_right_eq_some.mp hv
      exact ⟨h, pad, rfl, hannounces, (Option.some.inj hv).symm⟩
    · rintro ⟨h', pad', heq, hannounces, rfl⟩
      have hparse := parseArpHeader_encode h' pad'
      rw [← heq, parseArpHeader_encode, if_pos hannounces] at hparse
      exact Except.ok.inj hparse

theorem DirectArp.length_le {bytes : List UInt8} {v : ArpSender} (h : DirectArp bytes v) :
    28 ≤ bytes.length := by
  obtain ⟨h, pad, rfl, -⟩ := h
  simp

/-! ## The two framings -/

section frames

variable {addresses payload : List UInt8} {ethertype : UInt16}

theorem exists_payload {frame : List UInt8} (h : 42 ≤ frame.length) :
    ∃ addresses : List UInt8, ∃ ethertype : UInt16, ∃ payload : List UInt8,
      addresses.length = 12 ∧ frame = addresses ++ be16Bytes ethertype ++ payload ∧
        28 ≤ payload.length := by
  have hlen : 28 + 2 ≤ (frame.drop 12).length := by
    rw [List.length_drop]
    omega
  obtain ⟨ethertype, payload, hdrop, hlen⟩ := exists_be16Bytes hlen
  refine ⟨frame.take 12, ethertype, payload, by rw [List.length_take]; omega, ?_, hlen⟩
  rw [List.append_assoc, ← hdrop, List.take_append_drop]

theorem length_frame (h : addresses.length = 12) :
    (addresses ++ be16Bytes ethertype ++ payload).length = 14 + payload.length := by
  rw [List.length_append, List.length_append, h]
  rfl

theorem index_payload (h : addresses.length = 12) {i : ℕ} (hi : i < payload.length) :
    index (addresses ++ be16Bytes ethertype ++ payload) (14 + i) = index payload i :=
  index_append_right (by rw [List.length_append, h]; rfl) hi

theorem slice_payload (h : addresses.length = 12) :
    slice (addresses ++ be16Bytes ethertype ++ payload) 14
      (addresses ++ be16Bytes ethertype ++ payload).length = .ok payload := by
  have hhead : (addresses ++ be16Bytes ethertype).length = 14 := by
    rw [List.length_append, h]
    rfl
  have hdrop : (addresses ++ be16Bytes ethertype ++ payload).drop 14 = payload := by
    rw [← hhead, List.drop_left]
  rw [slice_ok (by rw [length_frame h]; omega) le_rfl, hdrop, length_frame h,
    List.take_of_length_le (by omega)]

theorem index_ethertype (h : addresses.length = 12) :
    index (addresses ++ be16Bytes ethertype ++ payload) 12 =
        .ok (UInt8.ofNat (ethertype.toNat / 256)) ∧
      index (addresses ++ be16Bytes ethertype ++ payload) 13 =
        .ok (UInt8.ofNat ethertype.toNat) := by
  rw [List.append_assoc]
  constructor
  · exact index_append_right (i := 0) h (by simp [be16Bytes])
  · exact index_append_right (i := 1) h (by simp [be16Bytes])

/-- The two bytes after the addresses decide how a packet is read. -/
theorem looksLikeArpFrame_append (h : addresses.length = 12) (hlen : 28 ≤ payload.length) :
    looksLikeArpFrame (addresses ++ be16Bytes ethertype ++ payload) =
      .ok (decide (ethertype = 0x0806)) := by
  have htype : (UInt8.ofNat (ethertype.toNat / 256) = 0x08 ∧
      UInt8.ofNat ethertype.toNat = 0x06) ↔ ethertype = 0x0806 := by
    rw [← be16_inj, be16_be16Bytes]
    rfl
  unfold looksLikeArpFrame
  rw [if_neg (by rw [length_frame h]; omega), (index_ethertype h).1, (index_ethertype h).2]
  simp only [bind, Except.bind, pure, Except.pure, htype]

theorem parseArpPacket_append (h : addresses.length = 12) (hlen : 28 ≤ payload.length) :
    parseArpPacket (addresses ++ be16Bytes 0x0806 ++ payload) =
      (parseArpHeader payload).map (Option.map fun v => (v.2.2, v.2.1)) := by
  unfold parseArpPacket
  rw [if_neg (by rw [length_frame h]; omega), (index_ethertype h).1, (index_ethertype h).2,
    slice_payload h]
  simp only [bind, Except.bind, pure, Except.pure, be16_be16Bytes, ne_eq, not_true_eq_false,
    if_false]
  rcases parseArpHeader payload with e | _ | v <;> rfl

theorem index_opcode {h : ArpHeader} {pad : List UInt8} :
    index (h.encode ++ pad) 6 = .ok (UInt8.ofNat (h.opcode.toNat / 256)) ∧
      index (h.encode ++ pad) 7 = .ok (UInt8.ofNat h.opcode.toNat) :=
  ⟨rfl, rfl⟩

theorem extractArp_ethernet (h : addresses.length = 12) (hlen : 28 ≤ payload.length)
    (packetType : UInt16) :
    extractArp (addresses ++ be16Bytes 0x0806 ++ payload) packetType =
      parseArpHeader payload := by
  have h₂₀ : index (addresses ++ be16Bytes 0x0806 ++ payload) 20 = index payload 6 :=
    index_payload h (i := 6) (by omega)
  have h₂₁ : index (addresses ++ be16Bytes 0x0806 ++ payload) 21 = index payload 7 :=
    index_payload h (i := 7) (by omega)
  obtain ⟨header, pad, rfl⟩ := ArpHeader.exists_encode hlen
  unfold extractArp
  rw [looksLikeArpFrame_append h hlen, parseArpPacket_append h hlen, parseArpHeader_encode, h₂₀,
    h₂₁, index_opcode.1, index_opcode.2]
  by_cases hannounces : header.Announces
  · rw [if_pos hannounces]
    simp only [bind, Except.bind, pure, Except.pure, Except.map, Option.map_some, decide_true,
      if_true, be16_be16Bytes, ArpHeader.sender]
  · rw [if_neg hannounces]
    rfl

end frames

theorem extractArp_direct {frame : List UInt8} (packetType : UInt16)
    (h : looksLikeArpFrame frame = .ok false) :
    extractArp frame packetType =
      if packetType = 7 then parseArpHeader frame else .ok none := by
  unfold extractArp
  rw [h]
  simp only [bind, Except.bind, Bool.false_eq_true, if_false]
  by_cases hlen : 28 ≤ frame.length
  · simp only [hlen, and_true]
    rfl
  · have hnone : parseArpHeader frame = .ok none := by
      unfold parseArpHeader
      rw [if_pos (by omega)]
      rfl
    rw [if_neg fun hand => hlen hand.2, hnone, ite_self]
    rfl

/-- The bytes say Ethernet where a bare announcement has the end of its sender's address. -/
def TakenForEthernet (frame : List UInt8) : Prop :=
  42 ≤ frame.length ∧ frame[12]? = some 0x08 ∧ frame[13]? = some 0x06

instance (frame : List UInt8) : Decidable (TakenForEthernet frame) :=
  inferInstanceAs (Decidable (_ ∧ _))

theorem looksLikeArpFrame_eq (frame : List UInt8) :
    looksLikeArpFrame frame = .ok (decide (TakenForEthernet frame)) := by
  unfold looksLikeArpFrame
  by_cases hlen : frame.length < 42
  · have hnot : ¬ TakenForEthernet frame := fun h => Nat.not_le.mpr hlen h.1
    rw [if_pos hlen, decide_eq_false hnot]
    rfl
  · rw [if_neg hlen]
    have h₁₂ : 12 < frame.length := by omega
    have h₁₃ : 13 < frame.length := by omega
    simp [TakenForEthernet, index, bind, Except.bind, pure, Except.pure, h₁₂, h₁₃,
      Nat.not_lt.mp hlen]

theorem takenForEthernet_iff {frame : List UInt8} :
    TakenForEthernet frame ↔ ∃ addresses payload : List UInt8, addresses.length = 12 ∧
      frame = addresses ++ be16Bytes 0x0806 ++ payload ∧ 28 ≤ payload.length := by
  constructor
  · intro h
    obtain ⟨addresses, ethertype, payload, ha, rfl, hlen⟩ := exists_payload h.1
    have hlooks := looksLikeArpFrame_eq (addresses ++ be16Bytes ethertype ++ payload)
    rw [looksLikeArpFrame_append ha hlen, Except.ok.injEq, decide_eq_decide] at hlooks
    obtain rfl := hlooks.mpr h
    exact ⟨addresses, payload, ha, rfl, hlen⟩
  · rintro ⟨addresses, payload, ha, rfl, hlen⟩
    have hlooks := looksLikeArpFrame_eq (addresses ++ be16Bytes 0x0806 ++ payload)
    rw [looksLikeArpFrame_append ha hlen, Except.ok.injEq, decide_eq_decide] at hlooks
    exact hlooks.mp rfl

theorem EthernetArp.taken {frame : List UInt8} {v : ArpSender} (h : EthernetArp frame v) :
    TakenForEthernet frame := by
  obtain ⟨addresses, payload, ha, rfl, hdirect⟩ := h
  exact takenForEthernet_iff.mpr ⟨addresses, payload, ha, rfl, hdirect.length_le⟩

/-- The extraction never reads outside the frame, and prefers the Ethernet framing. -/
theorem extractArp_spec (frame : List UInt8) (packetType : UInt16) :
    ∃ r, extractArp frame packetType = .ok r ∧ ∀ v, r = some v ↔
      if TakenForEthernet frame then EthernetArp frame v
      else packetType = 7 ∧ DirectArp frame v := by
  by_cases htaken : TakenForEthernet frame
  · obtain ⟨addresses, payload, ha, rfl, hlen⟩ := takenForEthernet_iff.mp htaken
    obtain ⟨r, hparse, hr⟩ := parseArpHeader_spec payload
    refine ⟨r, (extractArp_ethernet ha hlen packetType).trans hparse, fun v => ?_⟩
    rw [if_pos htaken, hr]
    constructor
    · intro hdirect
      exact ⟨addresses, payload, ha, rfl, hdirect⟩
    · rintro ⟨addresses', payload', ha', heq, hdirect⟩
      have hsplit := List.append_inj heq (by simp [ha, ha'])
      rwa [hsplit.2]
  · have hlooks := looksLikeArpFrame_eq frame
    rw [decide_eq_false htaken] at hlooks
    rw [extractArp_direct packetType hlooks]
    obtain ⟨r, hparse, hr⟩ := parseArpHeader_spec frame
    by_cases htype : packetType = 7
    · refine ⟨r, by rw [if_pos htype, hparse], fun v => ?_⟩
      rw [if_neg htaken, hr]
      exact ⟨fun h => ⟨htype, h⟩, fun h => h.2⟩
    · refine ⟨none, by rw [if_neg htype], fun v => ?_⟩
      rw [if_neg htaken]
      simp [htype]

/-- The bytes of a packet, where it is not empty and lies in the blob. -/
def packetBytes (blob : Region) (packetOffset packetLength : ℕ) : Option (List UInt8) :=
  if 0 < packetLength ∧ packetOffset + packetLength ≤ blob.bytes.length then
    some ((blob.bytes.drop packetOffset).take packetLength)
  else none

theorem checkedPacketRange_eq {blobLen packetOffset packetLength : ℕ} (h : blobLen < 2 ^ 64) :
    checkedPacketRange blobLen packetOffset packetLength =
      if 0 < packetLength ∧ packetOffset + packetLength ≤ blobLen then
        some (packetOffset, packetOffset + packetLength)
      else none := by
  unfold checkedPacketRange checkedAdd
  rcases Nat.eq_zero_or_pos packetLength with rfl | hpos
  · rfl
  · rw [if_neg hpos.ne']
    by_cases hend : packetOffset + packetLength ≤ blobLen
    · rw [if_pos (hend.trans_lt h), if_pos ⟨hpos, hend⟩]
      exact if_neg (Nat.not_lt.mpr hend)
    · have hout : ¬ (0 < packetLength ∧ packetOffset + packetLength ≤ blobLen) :=
        fun hin => hend hin.2
      rw [if_neg hout]
      split
      · exact if_pos (Nat.lt_of_not_le hend)
      · rfl

theorem capturedArp_eq (blob : Region) (packetOffset packetLength : ℕ) (packetType : UInt16) :
    capturedArp blob packetOffset packetLength packetType =
      match packetBytes blob packetOffset packetLength with
      | none => .ok none
      | some frame => extractArp frame packetType := by
  unfold capturedArp
  rw [checkedPacketRange_eq (by have := blob.fits; omega), packetBytes]
  by_cases h : 0 < packetLength ∧ packetOffset + packetLength ≤ blob.bytes.length
  · rw [if_pos h, if_pos h]
    simp only [bind, Except.bind]
    rw [slice_ok (Nat.le_add_right _ _) h.2, Nat.add_sub_cancel_left]
  · rw [if_neg h, if_neg h]
    rfl

/-- What a capture has to find in a packet. -/
def Carries (frame : List UInt8) (packetType : UInt16) (v : ArpSender) : Prop :=
  EthernetArp frame v ∨ packetType = 7 ∧ DirectArp frame v

/-- A capture reads only the blob; it finds exactly what the packet carries unless a bare
announcement is taken for a frame that does not say the same. -/
theorem capturedArp_exact_iff (blob : Region) (packetOffset packetLength : ℕ)
    (packetType : UInt16) :
    (∃ r, capturedArp blob packetOffset packetLength packetType = .ok r ∧ ∀ v, r = some v ↔
        ∃ frame, packetBytes blob packetOffset packetLength = some frame ∧
          Carries frame packetType v) ↔
      ∀ frame, packetBytes blob packetOffset packetLength = some frame →
        packetType = 7 → TakenForEthernet frame → ∀ v, DirectArp frame v → EthernetArp frame v := by
  rw [capturedArp_eq]
  cases packetBytes blob packetOffset packetLength with
  | none => simp
  | some frame =>
    obtain ⟨r, hextract, hr⟩ := extractArp_spec frame packetType
    simp only [hextract, Except.ok.injEq, exists_eq_left', Option.some.injEq, forall_eq', hr,
      Carries]
    constructor
    · intro hexact htype htaken v hdirect
      have hv := (hexact v).mpr (Or.inr ⟨htype, hdirect⟩)
      rwa [if_pos htaken] at hv
    · intro hsame v
      split
      case isTrue htaken =>
        constructor
        · exact Or.inl
        · rintro (hethernet | ⟨htype, hdirect⟩)
          · exact hethernet
          · exact hsame htype htaken v hdirect
      case isFalse htaken =>
        constructor
        · exact Or.inr
        · rintro (hethernet | hdirect)
          · exact absurd hethernet.taken htaken
          · exact hdirect

/-- A bare announcement from an address that ends in `08:06`, padded to 42 bytes. -/
def bareAnnouncement : Region where
  base := 0
  bytes := [0, 1, 8, 0, 6, 4, 0, 1, 2, 0, 0, 0, 8, 6, 192, 168, 1, 10] ++ List.replicate 24 0
  fits := by decide

theorem bareAnnouncement_lost :
    capturedArp bareAnnouncement 0 42 7 = .ok none ∧
      Carries bareAnnouncement.bytes 7 (1, ⟨2, 0, 0, 0, 8, 6⟩, ⟨192, 168, 1, 10⟩) ∧
      ¬ ∃ r, capturedArp bareAnnouncement 0 42 7 = .ok r ∧ ∀ v, r = some v ↔
        ∃ frame, packetBytes bareAnnouncement 0 42 = some frame ∧ Carries frame 7 v := by
  have hnone : capturedArp bareAnnouncement 0 42 7 = .ok none := by rfl
  have hcarries : Carries bareAnnouncement.bytes 7 (1, ⟨2, 0, 0, 0, 8, 6⟩, ⟨192, 168, 1, 10⟩) :=
    Or.inr ⟨rfl, ⟨1, 0x0800, 6, 4, 1, ⟨2, 0, 0, 0, 8, 6⟩, ⟨192, 168, 1, 10⟩, ⟨0, 0, 0, 0, 0, 0⟩,
      ⟨0, 0, 0, 0⟩⟩, List.replicate 14 0, by decide, by decide, rfl⟩
  refine ⟨hnone, hcarries, ?_⟩
  rintro ⟨r, hr, hexact⟩
  rw [hnone] at hr
  cases hr
  cases (hexact _).mpr ⟨_, rfl, hcarries⟩

end PocketStream
