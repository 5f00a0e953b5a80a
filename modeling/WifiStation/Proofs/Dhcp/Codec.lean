import WifiStation.Dhcp.Transport

/-!
# WifiStation.Proofs.Dhcp.Codec

Packets survive the wire exactly when their lists fit into the one length byte of an option.

* Writing and reading back: every option is taken into account where it stands
  (`decodeFrom_optionOf`, `decodeFrom_listOptionOf`), so the options come back one after the other
  (`decodeFrom_encode`), and behind them the end byte stops the reader before the padding.
* Whatever is read fits (`fits_of_decode`), because the value of an option is never longer than its
  length byte can say. Hence a packet that does not fit cannot come back: what its bytes are taken
  for, with the rest of a list read as further options, is some other packet or an error.
-/

namespace WifiStation.Dhcp

open WifiStation.Net WifiStation.Wire

/-! ### Lists that fit -/

/-- The longest value of an option. -/
def maxValue : Nat := 255

/-- The lists are short enough for the length byte of an option: sixty-three addresses of four bytes
each, or two hundred and fifty-five codes. -/
structure Options.Fits (o : Options) : Prop where
  routers : o.routers.length ≤ 63
  dnsServers : o.dnsServers.length ≤ 63
  parameterRequest : o.parameterRequest.length ≤ 255

/-! ### One value -/

@[simp] theorem addr?_toBytes (a : Ipv4) : addr? a.toBytes = some a :=
  congrArg some a.ofBytes_byte

@[simp] theorem addrs?_flatMap_toBytes (as : List Ipv4) :
    addrs? (as.flatMap Ipv4.toBytes) = some as := by
  induction as with
  | nil => rfl
  | cons a as ih =>
      have step : addrs? (a.toBytes ++ as.flatMap Ipv4.toBytes) =
          (addrs? (as.flatMap Ipv4.toBytes)).map
            (Ipv4.ofBytes (a.byte 3) (a.byte 2) (a.byte 1) (a.byte 0) :: ·) := rfl
      rw [List.flatMap_cons, step, ih, Ipv4.ofBytes_byte]
      rfl

theorem length_flatMap_toBytes (as : List Ipv4) :
    (as.flatMap Ipv4.toBytes).length = 4 * as.length := by
  induction as with
  | nil => rfl
  | cons a as ih =>
      rw [List.flatMap_cons, List.length_append, ih, Ipv4.length_toBytes, List.length_cons]
      omega

theorem someAddrs?_flatMap_toBytes {as : List Ipv4} (nonempty : as ≠ []) :
    someAddrs? (as.flatMap Ipv4.toBytes) = some as := by
  cases as with
  | nil => exact absurd rfl nonempty
  | cons a as =>
      have some_bytes : ((a :: as).flatMap Ipv4.toBytes).isEmpty = false := rfl
      rw [someAddrs?, some_bytes, addrs?_flatMap_toBytes]
      rfl

theorem flatMap_singleton_bytes (bs : List UInt8) : bs.flatMap (fun b => [b]) = bs := by
  induction bs with
  | nil => rfl
  | cons b bs ih => rw [List.flatMap_cons, ih]; rfl

/-- Four bytes make an address. -/
theorem length_of_addrs? {value : List UInt8} {as : List Ipv4} (h : addrs? value = some as) :
    value.length = 4 * as.length := by
  fun_induction addrs? value generalizing as with
  | case1 =>
      cases h
      rfl
  | case2 a b c d rest ih =>
      obtain ⟨as', has, rfl⟩ := Option.map_eq_some_iff.mp h
      have := ih has
      simp only [List.length_cons]
      omega
  | case3 => cases h

theorem length_of_someAddrs? {value : List UInt8} {as : List Ipv4}
    (h : someAddrs? value = some as) : value.length = 4 * as.length := by
  rw [someAddrs?] at h
  split at h
  · cases h
  · exact length_of_addrs? h

namespace Options

/-! ### One option -/

/-- The codes that stand for an option, and not for a pad byte or the end. -/
def IsCode (code : UInt8) : Prop := code ≠ 0 ∧ code ≠ 255

instance (code : UInt8) : Decidable (IsCode code) := inferInstanceAs (Decidable (_ ∧ _))

@[simp] theorem decodeFrom_end (o : Options) (rest : List UInt8) :
    o.decodeFrom (255 :: rest) = .ok o := by
  rw [decodeFrom.eq_def]
  rfl

/-- A value that fits is taken into account, and reading goes on behind it unless its length is
wrong. -/
theorem decodeFrom_option {o : Options} {code : UInt8} (real : IsCode code) {value : List UInt8}
    (short : value.length ≤ maxValue) (rest : List UInt8) :
    o.decodeFrom (optionBytes code value ++ rest) = match o.put? code value with
      | none => .error (.badOption code value.length)
      | some o' => o'.decodeFrom rest := by
  have size : (UInt8.ofNat value.length).toNat = value.length := by
    rw [UInt8.toNat_ofNat', Nat.mod_eq_of_lt]
    exact Nat.lt_succ_of_le short
  have enough : ¬ (value ++ rest).length < value.length := by
    rw [List.length_append]
    omega
  rw [optionBytes, List.cons_append, List.cons_append, decodeFrom, if_neg real.1, if_neg real.2]
  cases put : o.put? code value with
  | none => simp only [size, if_neg enough, List.take_left', put]
  | some o' => simp only [size, if_neg enough, List.take_left', List.drop_left', put]

theorem decodeFrom_optionBytes {o o' : Options} {code : UInt8} (real : IsCode code)
    {value : List UInt8} (short : value.length ≤ maxValue) (put : o.put? code value = some o')
    (rest : List UInt8) : o.decodeFrom (optionBytes code value ++ rest) = o'.decodeFrom rest := by
  rw [decodeFrom_option real short, put]

/-- An option of a value that may be absent. `set` says what the options are with each value. -/
theorem decodeFrom_optionOf {α : Type} (set : Option α → Options) {code : UInt8}
    (real : IsCode code) {bytes : α → List UInt8} (short : ∀ a, (bytes a).length ≤ maxValue)
    (put : ∀ a, (set none).put? code (bytes a) = some (set (some a))) (value : Option α)
    (rest : List UInt8) :
    (set none).decodeFrom (optionOf code bytes value ++ rest) = (set value).decodeFrom rest := by
  cases value with
  | none => rfl
  | some a => exact decodeFrom_optionBytes real (short a) (put a) rest

/-- An option of a list, where an empty list is as good as none. -/
theorem decodeFrom_listOptionOf {α : Type} (set : List α → Options) {code : UInt8}
    (real : IsCode code) {bytes : α → List UInt8} {as : List α}
    (short : (as.flatMap bytes).length ≤ maxValue)
    (put : as ≠ [] → (set []).put? code (as.flatMap bytes) = some (set as))
    (rest : List UInt8) :
    (set []).decodeFrom (listOptionOf code bytes as ++ rest) = (set as).decodeFrom rest := by
  cases as with
  | nil => rfl
  | cons a as => exact decodeFrom_optionBytes real short (put (List.cons_ne_nil a as)) rest

@[simp] theorem put?_leaseSecs (o : Options) (secs : UInt32) :
    o.put? 51 (bytes32 secs) = some { o with leaseSecs := some secs } := by
  have read : o.put? 51 (bytes32 secs) = some { o with leaseSecs := some (word32
      (UInt8.ofNat (secs.toNat / 2 ^ 24)) (UInt8.ofNat (secs.toNat / 2 ^ 16))
      (UInt8.ofNat (secs.toNat / 2 ^ 8)) (UInt8.ofNat secs.toNat)) } := rfl
  rw [read, word32_bytes32]

/-! ### All options -/

/-- The options that were written come back. -/
theorem decodeFrom_encode {o : Options} (fits : o.Fits) (rest : List UInt8) :
    decodeFrom {} (o.encode ++ rest) = o.decodeFrom rest := by
  have addrs_short : ∀ as : List Ipv4, as.length ≤ 63 →
      (as.flatMap Ipv4.toBytes).length ≤ maxValue := by
    intro as h
    rw [length_flatMap_toBytes, maxValue]
    omega
  have routers_short := addrs_short o.routers fits.routers
  have servers_short := addrs_short o.dnsServers fits.dnsServers
  have wanted_short : (o.parameterRequest.flatMap fun b => [b]).length ≤ maxValue := by
    rw [flatMap_singleton_bytes]
    exact fits.parameterRequest
  simp only [encode, List.append_assoc]
  -- one step per option, in the order they are written
  calc decodeFrom {} _
      = decodeFrom { kind := o.kind } _ :=
        decodeFrom_optionOf (fun kind => { kind }) (by decide) (fun _ => by simp [maxValue])
          (fun k => by simp [put?]) o.kind _
    _ = decodeFrom { kind := o.kind, serverId := o.serverId } _ :=
        decodeFrom_optionOf (fun serverId => { kind := o.kind, serverId }) (by decide)
          (fun _ => by simp [maxValue]) (fun a => by simp [put?]) o.serverId _
    _ = decodeFrom { kind := o.kind, serverId := o.serverId, requestedAddr := o.requestedAddr } _ :=
        decodeFrom_optionOf
          (fun requestedAddr => { kind := o.kind, serverId := o.serverId, requestedAddr })
          (by decide) (fun _ => by simp [maxValue]) (fun a => by simp [put?]) o.requestedAddr _
    _ = decodeFrom { kind := o.kind, serverId := o.serverId, requestedAddr := o.requestedAddr,
                     leaseSecs := o.leaseSecs } _ :=
        decodeFrom_optionOf
          (fun leaseSecs => { kind := o.kind, serverId := o.serverId,
                              requestedAddr := o.requestedAddr, leaseSecs })
          (by decide) (fun _ => by simp [maxValue]) (fun secs => put?_leaseSecs _ secs)
          o.leaseSecs _
    _ = decodeFrom { o with routers := [], dnsServers := [], parameterRequest := [] } _ :=
        decodeFrom_optionOf
          (fun subnetMask =>
            { o with subnetMask, routers := [], dnsServers := [], parameterRequest := [] })
          (by decide) (fun _ => by simp [maxValue]) (fun a => by simp [put?]) o.subnetMask _
    _ = decodeFrom { o with dnsServers := [], parameterRequest := [] } _ :=
        decodeFrom_listOptionOf
          (fun routers => { o with routers, dnsServers := [], parameterRequest := [] })
          (by decide) routers_short (fun h => by simp [put?, someAddrs?_flatMap_toBytes h]) _
    _ = decodeFrom { o with parameterRequest := [] } _ :=
        decodeFrom_listOptionOf (fun dnsServers => { o with dnsServers, parameterRequest := [] })
          (by decide) servers_short (fun h => by simp [put?, someAddrs?_flatMap_toBytes h]) _
    _ = decodeFrom o rest :=
        decodeFrom_listOptionOf (fun parameterRequest => { o with parameterRequest })
          (by decide) wanted_short (fun _ => by rw [flatMap_singleton_bytes]; rfl) rest

/-! ### What is read fits -/

theorem fits_empty : ({} : Options).Fits := ⟨Nat.zero_le _, Nat.zero_le _, Nat.zero_le _⟩

/-- A value of at most two hundred and fifty-five bytes keeps the lists short. -/
theorem Fits.put? {o o' : Options} (h : o.Fits) {code : UInt8} {value : List UInt8}
    (short : value.length ≤ maxValue) (put : o.put? code value = some o') : o'.Fits := by
  have list_short : ∀ {as : List Ipv4}, someAddrs? value = some as → as.length ≤ 63 := by
    intro as has
    have := length_of_someAddrs? has
    rw [maxValue] at short
    omega
  rw [Options.put?.eq_def] at put
  split at put
  · cases put
    exact ⟨h.routers, h.dnsServers, h.parameterRequest⟩
  · obtain ⟨a, -, rfl⟩ := Option.map_eq_some_iff.mp put
    exact ⟨h.routers, h.dnsServers, h.parameterRequest⟩
  · obtain ⟨as, has, rfl⟩ := Option.map_eq_some_iff.mp put
    exact ⟨list_short has, h.dnsServers, h.parameterRequest⟩
  · obtain ⟨as, has, rfl⟩ := Option.map_eq_some_iff.mp put
    exact ⟨h.routers, list_short has, h.parameterRequest⟩
  · obtain ⟨a, -, rfl⟩ := Option.map_eq_some_iff.mp put
    exact ⟨h.routers, h.dnsServers, h.parameterRequest⟩
  · obtain ⟨a, -, rfl⟩ := Option.map_eq_some_iff.mp put
    exact ⟨h.routers, h.dnsServers, h.parameterRequest⟩
  · split at put
    · cases put
      exact ⟨h.routers, h.dnsServers, h.parameterRequest⟩
    · cases put
  · cases put
    exact ⟨h.routers, h.dnsServers, short⟩
  · cases put
    exact h

/-- Options that are read fit, whatever the bytes. -/
theorem Fits.decodeFrom {o o' : Options} (h : o.Fits) {bs : List UInt8}
    (read : o.decodeFrom bs = .ok o') : o'.Fits := by
  fun_induction Options.decodeFrom o bs with
  | case1 o =>
      cases read
      exact h
  | case2 o rest ih => exact ih h read
  | case3 o rest =>
      cases read
      exact h
  | case4 => cases read
  | case5 => cases read
  | case6 => cases read
  | case7 o code pad fin size rest enough o₁ put ih =>
      refine ih (h.put? ?_ put) read
      exact Nat.le_trans (List.length_take_le _ _) (Nat.le_of_lt_succ size.toNat_lt)

/-! ### How long the options are -/

theorem length_optionOf_le {α : Type} (code : UInt8) {bytes : α → List UInt8} {n : Nat}
    (short : ∀ a, (bytes a).length ≤ n) (value : Option α) :
    (optionOf code bytes value).length ≤ n + 2 := by
  cases value with
  | none => exact Nat.zero_le _
  | some a => exact Nat.add_le_add_right (short a) 2

theorem length_listOptionOf_le {α : Type} (code : UInt8) {bytes : α → List UInt8} {n : Nat}
    {as : List α} (short : (as.flatMap bytes).length ≤ n) :
    (listOptionOf code bytes as).length ≤ n + 2 := by
  cases as with
  | nil => exact Nat.zero_le _
  | cons a as => exact Nat.add_le_add_right short 2

/-- Options that fit take at most seven hundred and ninety-two bytes. -/
theorem length_encode_le {o : Options} (fits : o.Fits) : o.encode.length ≤ 792 := by
  have kind : (optionOf 53 (fun k => [k.code]) o.kind).length ≤ 3 :=
    length_optionOf_le 53 (fun _ => Nat.le_refl 1) o.kind
  have server := length_optionOf_le 54 (fun a => Nat.le_of_eq (Ipv4.length_toBytes a)) o.serverId
  have requested :=
    length_optionOf_le 50 (fun a => Nat.le_of_eq (Ipv4.length_toBytes a)) o.requestedAddr
  have secs := length_optionOf_le 51 (fun w => Nat.le_of_eq (length_bytes32 w)) o.leaseSecs
  have mask := length_optionOf_le 1 (fun a => Nat.le_of_eq (Ipv4.length_toBytes a)) o.subnetMask
  have routers := length_listOptionOf_le 3 (Nat.le_of_eq (length_flatMap_toBytes o.routers))
  have servers := length_listOptionOf_le 6 (Nat.le_of_eq (length_flatMap_toBytes o.dnsServers))
  have wanted := length_listOptionOf_le 55
    (Nat.le_of_eq (congrArg List.length (flatMap_singleton_bytes o.parameterRequest)))
  have := fits.routers
  have := fits.dnsServers
  have := fits.parameterRequest
  simp only [encode, List.length_append]
  omega

end Options

namespace Packet

/-! ### The packet -/

/-- The bytes behind the cookie: options, end, padding. -/
def optionArea (p : Packet) : List UInt8 :=
  p.options.encode ++
    255 :: List.replicate (minimumSize - (p.header ++ cookie ++ p.options.encode ++ [255]).length) 0

theorem encode_eq (p : Packet) : p.encode = p.header ++ (cookie ++ p.optionArea) := by
  simp only [encode, padTo, optionArea, List.append_assoc, List.cons_append, List.nil_append]

/-- The fixed fields are read where they were written. -/
theorem header_fields (p : Packet) :
    let at' := fun i => p.encode.getD i 0
    ({ direction := p.direction
       xid := word32 (at' 4) (at' 5) (at' 6) (at' 7)
       secs := word16 (at' 8) (at' 9)
       flags := word16 (at' 10) (at' 11)
       ciaddr := addrAt p.encode 12
       yiaddr := addrAt p.encode 16
       siaddr := addrAt p.encode 20
       giaddr := addrAt p.encode 24
       chaddr := ⟨at' 28, at' 29, at' 30, at' 31, at' 32, at' 33⟩
       options := p.options } : Packet) = p := by
  -- the first thirty-four bytes written out one by one
  have bytes : p.encode = p.header ++ (cookie ++ p.optionArea) := p.encode_eq
  simp only [header, bytes32, bytes16, Ipv4.toBytes, Mac.toBytes, List.cons_append,
    List.nil_append] at bytes
  simp only [addrAt, bytes, List.getD_cons_succ, List.getD_cons_zero, Nat.reduceAdd,
    word32_bytes32, word16_bytes16, Ipv4.ofBytes_byte]

/-- A packet whose lists fit comes back as it was. -/
theorem decode_encode {p : Packet} (fits : p.options.Fits) : decode p.encode = .ok p := by
  have long : ¬ p.encode.length < optionsOffset := by
    have := p.minimumSize_le_length_encode
    have : optionsOffset ≤ minimumSize := by decide
    omega
  have behind : p.encode.drop headerSize = cookie ++ p.optionArea := by
    rw [encode_eq, List.drop_left' p.length_header]
  have found : (p.encode.drop headerSize).take 4 = cookie := by
    rw [behind]
    rfl
  have area : p.encode.drop optionsOffset = p.optionArea := by
    have : p.encode.drop optionsOffset = (p.encode.drop headerSize).drop 4 := by
      rw [List.drop_drop]
      rfl
    rw [this, behind]
    rfl
  have options : Options.decodeFrom {} (p.encode.drop optionsOffset) = .ok p.options := by
    rw [area, optionArea, Options.decodeFrom_encode fits, Options.decodeFrom_end]
  have direction : Direction.ofCode? (p.encode.getD 0 0) = some p.direction := by
    rw [encode_eq]
    exact p.direction.ofCode?_code
  rw [decode, if_neg long, if_neg (not_not_intro found), direction]
  simp only [options]
  exact congrArg Except.ok (header_fields p)

/-- Every packet that is read fits. -/
theorem fits_of_decode {bs : List UInt8} {p : Packet} (h : decode bs = .ok p) :
    p.options.Fits := by
  rw [decode] at h
  split at h
  · cases h
  · split at h
    · cases h
    · split at h
      · cases h
      · split at h
        · cases h
        · rename_i options read
          cases h
          exact Options.fits_empty.decodeFrom read

theorem length_encode_le {p : Packet} (fits : p.options.Fits) : p.encode.length ≤ 1033 := by
  have := Options.length_encode_le fits
  have header : p.header.length = 236 := p.length_header
  have fixed : cookie.length = 4 := rfl
  simp only [encode, padTo, List.length_append, List.length_replicate, List.length_cons,
    List.length_nil, minimumSize]
  omega

/-- A packet comes back from its bytes if and only if its lists fit. Everything that is read fits,
so reading, writing and reading again changes nothing; and a packet that fits takes between 300 and
1033 bytes, which a datagram holds whole, so the other end gets the same packet. -/
theorem decode_encode_iff_fits :
    (∀ p : Packet, decode p.encode = .ok p ↔ p.options.Fits) ∧
    (∀ bs p, decode bs = .ok p → p.options.Fits ∧ decode p.encode = .ok p) ∧
    (∀ p : Packet, p.options.Fits →
      300 ≤ p.encode.length ∧ p.encode.length ≤ 1033 ∧ p.encode.take maxDatagram = p.encode ∧
        receive p.encode = .ok p) := by
  refine ⟨fun p => ⟨fits_of_decode, decode_encode⟩, fun bs p read => ?_, fun p fits => ?_⟩
  · have fits := fits_of_decode read
    exact ⟨fits, decode_encode fits⟩
  · have long := p.minimumSize_le_length_encode
    have short := length_encode_le fits
    have whole : p.encode.take maxDatagram = p.encode :=
      List.take_of_length_le (Nat.le_trans short (by decide))
    refine ⟨long, short, whole, ?_⟩
    rw [receive, whole, decode_encode fits]

/-- An answer with as much as fits of everything, and a number of routers. -/
def fullAnswer (routers : Nat) : Packet :=
  { direction := .reply, xid := 7, chaddr := ⟨2, 0, 0, 0, 0, 7⟩,
    options := { kind := some .ack, leaseSecs := some 600, serverId := some (.ofBytes 10 0 0 1),
                 subnetMask := some (.ofBytes 255 255 255 0), requestedAddr := some .zero,
                 routers := List.replicate routers (.ofBytes 10 0 0 1),
                 dnsServers := List.replicate 63 (.ofBytes 1 1 1 1),
                 parameterRequest := List.replicate 255 3 } }

/-- With sixty-three routers the largest packet is received as it was sent; with one more it is
not. -/
theorem decode_encode_iff_fits_full :
    (fullAnswer 63).encode.length = 1033 ∧ receive (fullAnswer 63).encode = .ok (fullAnswer 63) ∧
      decode (fullAnswer 64).encode ≠ .ok (fullAnswer 64) := by
  obtain ⟨iff_fits, -, received⟩ := decode_encode_iff_fits
  have fits : (fullAnswer 63).options.Fits :=
    ⟨Nat.le_of_eq List.length_replicate, Nat.le_of_eq List.length_replicate,
      Nat.le_of_eq List.length_replicate⟩
  refine ⟨by decide +kernel, (received _ fits).2.2.2, fun same => ?_⟩
  have few := ((iff_fits _).mp same).routers
  have many : (fullAnswer 64).options.routers.length = 64 := List.length_replicate
  omega

end Packet

end WifiStation.Dhcp
