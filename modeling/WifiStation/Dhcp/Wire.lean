import WifiStation.Wire.BigEndian
import WifiStation.Dhcp.Packet

/-!
# WifiStation.Dhcp.Wire

Packets as bytes.

A packet is a header of 236 bytes, a cookie, and items: single pad bytes, an end byte after which
nothing counts, and options of code, length and value.

* `Packet.encode` writes the options in a fixed order and pads to 300 bytes. The length byte of an
  option is the low byte of its length, so a list of more than 63 addresses does not come back.
* `Packet.decode` reads items up to the end byte or the end of the data. The last occurrence of an
  option counts, unknown codes are skipped, and the first malformed item is an error.
-/

namespace WifiStation.Dhcp

open WifiStation.Net WifiStation.Wire

/-- Why bytes are no packet. -/
inductive PacketError where
  | truncated (size : Nat)
  | badCookie
  | badOption (code : UInt8) (size : Nat)
  | badOp (code : UInt8)
  deriving DecidableEq, Repr

/-- The error as text. -/
def PacketError.message : PacketError → String
  | truncated size => s!"packet truncated at {size} bytes"
  | badCookie => "missing DHCP magic cookie"
  | badOption code size => s!"option {code} has invalid length {size}"
  | badOp code => s!"unknown op code {code}"

/-! ### Codes -/

/-- The first byte of a packet. -/
def Direction.code : Direction → UInt8
  | request => 1
  | reply => 2

/-- The direction of a first byte. -/
def Direction.ofCode? (b : UInt8) : Option Direction :=
  if b = 1 then some .request else if b = 2 then some .reply else none

@[simp] theorem Direction.ofCode?_code (d : Direction) : ofCode? d.code = some d := by
  cases d <;> rfl

/-- The value of option 53. -/
def Kind.code : Kind → UInt8
  | discover => 1
  | offer => 2
  | request => 3
  | decline => 4
  | ack => 5
  | nak => 6
  | release => 7
  | inform => 8

/-- The kind of a value of option 53. -/
def Kind.ofCode? (b : UInt8) : Option Kind :=
  match b.toNat with
  | 1 => some .discover
  | 2 => some .offer
  | 3 => some .request
  | 4 => some .decline
  | 5 => some .ack
  | 6 => some .nak
  | 7 => some .release
  | 8 => some .inform
  | _ => none

@[simp] theorem Kind.ofCode?_code (k : Kind) : ofCode? k.code = some k := by
  cases k <;> rfl

/-- The bytes between header and options. -/
def cookie : List UInt8 := [0x63, 0x82, 0x53, 0x63]

/-- The length of the header. -/
def headerSize : Nat := 236

/-- The length of header and cookie. -/
def optionsOffset : Nat := 240

/-- The least length of an encoded packet. -/
def minimumSize : Nat := 300

/-! ### Encoding -/

/-- An option: code, low byte of the length, value. -/
def optionBytes (code : UInt8) (value : List UInt8) : List UInt8 :=
  code :: UInt8.ofNat value.length :: value

/-- An option of a value that may be absent. -/
def optionOf {α : Type} (code : UInt8) (bytes : α → List UInt8) : Option α → List UInt8
  | some a => optionBytes code (bytes a)
  | none => []

/-- An option of a list, absent when the list is empty. -/
def listOptionOf {α : Type} (code : UInt8) (bytes : α → List UInt8) (as : List α) : List UInt8 :=
  if as.isEmpty then [] else optionBytes code (as.flatMap bytes)

/-- The options in the order they are sent, without the end byte. -/
def Options.encode (o : Options) : List UInt8 :=
  optionOf 53 (fun k => [k.code]) o.kind ++
  optionOf 54 Ipv4.toBytes o.serverId ++
  optionOf 50 Ipv4.toBytes o.requestedAddr ++
  optionOf 51 bytes32 o.leaseSecs ++
  optionOf 1 Ipv4.toBytes o.subnetMask ++
  listOptionOf 3 Ipv4.toBytes o.routers ++
  listOptionOf 6 Ipv4.toBytes o.dnsServers ++
  listOptionOf 55 (fun b => [b]) o.parameterRequest

/-- The bytes of a header behind the hardware address, all of them zero. -/
def emptySize : Nat := 202

/-- The fixed header: addresses are four bytes each, the hardware address is filled up to sixteen
bytes, and the server's name and boot file stay empty. -/
def Packet.header (p : Packet) : List UInt8 :=
  [p.direction.code, 1, 6, 0] ++ bytes32 p.xid ++ bytes16 p.secs ++ bytes16 p.flags ++
  p.ciaddr.toBytes ++ p.yiaddr.toBytes ++ p.siaddr.toBytes ++ p.giaddr.toBytes ++
  p.chaddr.toBytes ++ List.replicate emptySize 0

/-- Fills up with zero bytes to at least `size` bytes. -/
def padTo (size : Nat) (bs : List UInt8) : List UInt8 :=
  bs ++ List.replicate (size - bs.length) 0

/-- The bytes of a packet. -/
def Packet.encode (p : Packet) : List UInt8 :=
  padTo minimumSize (p.header ++ cookie ++ p.options.encode ++ [255])

@[simp] theorem Packet.length_header (p : Packet) : p.header.length = headerSize := by
  simp only [header, Mac.toBytes, List.length_append, List.length_cons, List.length_nil,
    length_bytes32, length_bytes16, Ipv4.length_toBytes, List.length_replicate]
  rfl

theorem Packet.minimumSize_le_length_encode (p : Packet) : minimumSize ≤ p.encode.length := by
  simp only [encode, padTo, List.length_append, List.length_replicate]
  omega

/-! ### Decoding -/

/-- The address of exactly four bytes. -/
def addr? : List UInt8 → Option Ipv4
  | [a, b, c, d] => some (Ipv4.ofBytes a b c d)
  | _ => none

/-- The addresses of a list of bytes whose length is a multiple of four. -/
def addrs? : List UInt8 → Option (List Ipv4)
  | [] => some []
  | a :: b :: c :: d :: rest => (addrs? rest).map (Ipv4.ofBytes a b c d :: ·)
  | _ => none

/-- The addresses of a nonempty list of bytes whose length is a multiple of four. -/
def someAddrs? (value : List UInt8) : Option (List Ipv4) :=
  if value.isEmpty then none else addrs? value

/-- Takes one option into account; `none` if its value has the wrong length. -/
def Options.put? (o : Options) (code : UInt8) (value : List UInt8) : Option Options :=
  match code.toNat with
  | 53 => some { o with kind := value.head?.bind Kind.ofCode? }
  | 1 => (addr? value).map fun a => { o with subnetMask := some a }
  | 3 => (someAddrs? value).map fun as => { o with routers := as }
  | 6 => (someAddrs? value).map fun as => { o with dnsServers := as }
  | 50 => (addr? value).map fun a => { o with requestedAddr := some a }
  | 54 => (addr? value).map fun a => { o with serverId := some a }
  | 51 => match value with
    | [a, b, c, d] => some { o with leaseSecs := some (word32 a b c d) }
    | _ => none
  | 55 => some { o with parameterRequest := value }
  | _ => some o

/-- Reads items left to right on top of the options found so far. -/
def Options.decodeFrom (o : Options) : List UInt8 → Except PacketError Options
  | [] => .ok o
  | code :: rest =>
    if code = 0 then decodeFrom o rest
    else if code = 255 then .ok o
    else match rest with
      | [] => .error (.badOption code 0)
      | size :: rest =>
        if rest.length < size.toNat then .error (.badOption code size.toNat)
        else match o.put? code (rest.take size.toNat) with
          | none => .error (.badOption code size.toNat)
          | some o => decodeFrom o (rest.drop size.toNat)
termination_by bs => bs.length
decreasing_by
  all_goals simp only [List.length_cons, List.length_drop]
  all_goals omega

/-- The address at an offset of a header, zero bytes standing in for missing ones. -/
def addrAt (bs : List UInt8) (i : Nat) : Ipv4 :=
  Ipv4.ofBytes (bs.getD i 0) (bs.getD (i + 1) 0) (bs.getD (i + 2) 0) (bs.getD (i + 3) 0)

/-- The packet of a byte string. The checks are made in this order: length, cookie, direction,
options. -/
def Packet.decode (bs : List UInt8) : Except PacketError Packet :=
  if bs.length < optionsOffset then .error (.truncated bs.length)
  else if (bs.drop headerSize).take 4 ≠ cookie then .error .badCookie
  else match Direction.ofCode? (bs.getD 0 0) with
    | none => .error (.badOp (bs.getD 0 0))
    | some direction =>
      match Options.decodeFrom {} (bs.drop optionsOffset) with
      | .error e => .error e
      | .ok options =>
        let at' := fun i => bs.getD i 0
        .ok {
          direction
          xid := word32 (at' 4) (at' 5) (at' 6) (at' 7)
          secs := word16 (at' 8) (at' 9)
          flags := word16 (at' 10) (at' 11)
          ciaddr := addrAt bs 12
          yiaddr := addrAt bs 16
          siaddr := addrAt bs 20
          giaddr := addrAt bs 24
          chaddr := ⟨at' 28, at' 29, at' 30, at' 31, at' 32, at' 33⟩
          options }

end WifiStation.Dhcp
