import MachineProvisioning.Proofs.Net.Bits
import MachineProvisioning.Proofs.Net.Block
import MachineProvisioning.StaticIp.Declaration

/-! # Which static addresses are lawful

A subnet text denotes a network in one of three notations. The rules of a lawful declaration are
stated from the texts and the bits of the addresses, without the steps that validation takes; it
accepts when every rule holds, and otherwise names the first one that fails.
-/

namespace MachineProvisioning.StaticIp

open Net Text
open Net.Block (IsMask)
open Resource (StaticIpSpec)

/-- The network that a subnet text denotes for an address, and whether the text is a CIDR. -/
inductive Denotes (address : Address) (cs : List Char) : Block → Bool → Prop where
  /-- `base/bits` in the family of the address, with something before the slash. -/
  | cidr {base rest : List Char} {block : Block} (text : cs = base ++ '/' :: rest) (first : '/' ∉ base)
      (nonempty : base ≠ []) (reads : Block.ofChars? cs = some block)
      (family : block.base.family = address.family) : Denotes address cs block.network true
  /-- A number of bits of the address, perhaps after a slash. -/
  | bits {digits : List Char} (text : cs = digits ∨ cs = '/' :: digits) (numeral : IsNumeral digits)
      (fits : Nat.ofDigitChars 10 digits 0 ≤ address.family.width) :
      Denotes address cs (Block.network ⟨address, Nat.ofDigitChars 10 digits 0, fits⟩) false
  /-- A dotted mask for an IPv4 address. -/
  | mask {mask bits : Nat} (reads : Address.quad? cs = some mask) (ones : IsMask mask bits)
      (v4 : address.family = .v4) (fits : bits ≤ address.family.width) :
      Denotes address cs (Block.network ⟨address, bits, fits⟩) false

/-- A dotted mask for an IPv4 address with a one after a zero. -/
structure Gapped (address : Address) (cs : List Char) (mask : Nat) : Prop where
  v4 : address.family = .v4
  reads : Address.quad? cs = some mask
  gap : ∀ bits, ¬ IsMask mask bits

theorem isCidr_iff {cs : List Char} :
    isCidr cs = true ↔ ∃ base rest, cs = base ++ '/' :: rest ∧ '/' ∉ base ∧ base ≠ [] := by
  unfold isCidr
  constructor
  · intro cidr
    split at cidr
    · next base rest parts =>
        obtain ⟨text, first⟩ := eq_append_of_splitFirst parts
        exact ⟨base, rest, text, first, by simpa using cidr⟩
    · cases cidr
  · rintro ⟨base, rest, rfl, first, nonempty⟩
    rw [splitFirst_append first]
    simpa using nonempty

theorem isDigits_iff {cs : List Char} : isDigits cs = true ↔ IsNumeral cs := by
  simp only [isDigits, Bool.and_eq_true, List.all_eq_true, Bool.not_eq_true',
    List.isEmpty_eq_false_iff]
  exact ⟨fun ⟨nonempty, digits⟩ => ⟨digits, nonempty⟩, fun ⟨digits, nonempty⟩ => ⟨nonempty, digits⟩⟩

theorem slash_not_mem {digits : List Char} (numeral : IsNumeral digits) : '/' ∉ digits := by
  intro mem
  have digit := numeral.digits '/' mem
  cases digit

theorem withoutSlash_of_text {cs digits : List Char} (text : cs = digits ∨ cs = '/' :: digits)
    (numeral : IsNumeral digits) : withoutSlash cs = digits := by
  rcases text with rfl | rfl
  · unfold withoutSlash
    split
    · exact absurd (.head _) (slash_not_mem numeral)
    · rfl
  · rfl

theorem text_of_withoutSlash (cs : List Char) :
    cs = withoutSlash cs ∨ cs = '/' :: withoutSlash cs := by
  unfold withoutSlash
  split
  · exact .inr rfl
  · exact .inl rfl

/-- A number of bits has nothing before its slash. -/
theorem isCidr_of_numeral {cs digits : List Char} (text : cs = digits ∨ cs = '/' :: digits)
    (numeral : IsNumeral digits) : isCidr cs = false := by
  rw [Bool.eq_false_iff]
  intro cidr
  obtain ⟨base, rest, parts, first, nonempty⟩ := isCidr_iff.mp cidr
  rcases text with rfl | rfl
  · exact slash_not_mem numeral (parts ▸ List.mem_append_right base (.head _))
  · cases base with
    | nil => exact nonempty rfl
    | cons c base =>
        cases parts
        exact first (.head _)

/-- A dotted quad is no CIDR. -/
theorem isCidr_of_quad {cs : List Char} {mask : Nat} (reads : Address.quad? cs = some mask) :
    isCidr cs = false := by
  rw [Bool.eq_false_iff]
  intro cidr
  obtain ⟨base, rest, rfl, -, -⟩ := isCidr_iff.mp cidr
  have slash : '/' ∈ base ++ '/' :: rest := List.mem_append_right base (.head _)
  rw [Address.quad?_of_mem rfl (by decide) slash] at reads
  cases reads

/-- A dotted quad is no number of bits. -/
theorem isDigits_of_quad {cs : List Char} {mask : Nat} (reads : Address.quad? cs = some mask) :
    isDigits (withoutSlash cs) = false := by
  rw [Bool.eq_false_iff]
  intro digits
  have numeral := isDigits_iff.mp digits
  have dotless : '.' ∉ cs := by
    have free : '.' ∉ withoutSlash cs := by
      intro mem
      have digit := numeral.digits '.' mem
      cases digit
    rcases text_of_withoutSlash cs with whole | whole
    · exact whole ▸ free
    · rw [whole]
      exact List.not_mem_cons_of_ne_of_not_mem (by decide) free
  rw [Address.quad?_of_dotless dotless] at reads
  cases reads

/-- No address has more bits than a byte can tell. -/
theorem bind_readUnsigned? {digits : List Char} (numeral : IsNumeral digits) (address : Address) :
    (readUnsigned? 255 digits).bind (Block.ofAddress? address) =
      Block.ofAddress? address (Nat.ofDigitChars 10 digits 0) := by
  have small : address.family.width ≤ 255 := by
    cases address.family <;> decide
  rw [numeral.readUnsigned?, Option.filter_some]
  split
  · rfl
  · next great =>
      have beyond : ¬ Nat.ofDigitChars 10 digits 0 ≤ address.family.width := fun fits =>
        great (by simpa using Nat.le_trans fits small)
      rw [Option.bind_none, Block.ofAddress?, dif_neg beyond]

variable {address : Address} {text : String} {network : Block} {explicitCidr : Bool}

/-- The text of a subnet without the blanks around it. -/
abbrev subnetChars (text : String) : List Char := trimChars text.toList

theorem subnetOf_of_denotes (denotes : Denotes address (subnetChars text) network explicitCidr) :
    subnetOf address text = .ok (network, explicitCidr) := by
  unfold subnetOf
  dsimp only
  cases denotes with
  | cidr whole first nonempty reads family =>
      rw [if_pos (isCidr_iff.mpr ⟨_, _, whole, first, nonempty⟩), reads]
      exact if_pos family
  | bits whole numeral fits =>
      rw [isCidr_of_numeral whole numeral, if_neg Bool.false_ne_true,
        withoutSlash_of_text whole numeral, if_pos (isDigits_iff.mpr numeral),
        bind_readUnsigned? numeral, Block.ofAddress?, dif_pos fits]
  | mask reads ones v4 fits =>
      have v6 : address.family ≠ .v6 := by
        rw [v4]
        decide
      rw [isCidr_of_quad reads, if_neg Bool.false_ne_true, isDigits_of_quad reads,
        if_neg Bool.false_ne_true, reads]
      simp only [v6, if_false, Block.maskBits?_eq_some_iff.mpr ones, Block.ofAddress?, dif_pos fits]

/-- A subnet text denotes one network. -/
theorem Denotes.unique {other : Block} {flag : Bool}
    (one : Denotes address (subnetChars text) network explicitCidr)
    (another : Denotes address (subnetChars text) other flag) :
    network = other ∧ explicitCidr = flag := by
  have same := (subnetOf_of_denotes one).symm.trans (subnetOf_of_denotes another)
  cases same
  exact ⟨rfl, rfl⟩

theorem Denotes.cleared {cs : List Char} (denotes : Denotes address cs network explicitCidr) :
    network.Cleared := by
  cases denotes <;> exact Block.cleared_network _

/-- How a subnet text is read for an address. -/
inductive Reading (address : Address) (cs : List Char) :
    Except StaticIpFault (Block × Bool) → Prop where
  | denotes {network : Block} {explicitCidr : Bool}
      (denotes : Denotes address cs network explicitCidr) :
      Reading address cs (.ok (network, explicitCidr))
  | gapped {mask : Nat} (gapped : Gapped address cs mask) :
      Reading address cs (.error (.nonContiguousMask (Address.quadText mask)))
  | malformed (regular : ∀ mask, ¬ Gapped address cs mask) :
      Reading address cs (.error (.invalidSubnet (String.ofList cs)))

theorem reading_of_isCidr (cidr : isCidr (subnetChars text) = true) :
    Reading address (subnetChars text) (subnetOf address text) := by
  have regular : ∀ mask, ¬ Gapped address (subnetChars text) mask := by
    intro mask gapped
    rw [isCidr_of_quad gapped.reads] at cidr
    cases cidr
  unfold subnetOf
  dsimp only
  rw [if_pos cidr]
  split
  · next block found =>
      split
      · next family =>
          obtain ⟨base, rest, whole, first, nonempty⟩ := isCidr_iff.mp cidr
          exact .denotes (.cidr whole first nonempty found family)
      · exact .malformed regular
  · exact .malformed regular

theorem reading_of_isDigits (notCidr : ¬ isCidr (subnetChars text) = true)
    (digits : isDigits (withoutSlash (subnetChars text)) = true) :
    Reading address (subnetChars text) (subnetOf address text) := by
  have numeral := isDigits_iff.mp digits
  have regular : ∀ mask, ¬ Gapped address (subnetChars text) mask := by
    intro mask gapped
    rw [isDigits_of_quad gapped.reads] at digits
    cases digits
  unfold subnetOf
  dsimp only
  rw [if_neg notCidr, if_pos digits, bind_readUnsigned? numeral, Block.ofAddress?]
  split
  · next block built =>
      split at built
      · next fits =>
          cases built
          exact .denotes (.bits (text_of_withoutSlash _) numeral fits)
      · cases built
  · exact .malformed regular

theorem reading_of_other (notCidr : ¬ isCidr (subnetChars text) = true)
    (notDigits : ¬ isDigits (withoutSlash (subnetChars text)) = true) :
    Reading address (subnetChars text) (subnetOf address text) := by
  unfold subnetOf
  dsimp only
  rw [if_neg notCidr, if_neg notDigits]
  split
  · next unread =>
      refine .malformed fun mask gapped => ?_
      rw [gapped.reads] at unread
      cases unread
  rename_i mask reads
  split
  · next v6 =>
      refine .malformed fun mask gapped => ?_
      rw [gapped.v4] at v6
      cases v6
  rename_i other
  have v4 : address.family = .v4 := by
    cases family : address.family with
    | v4 => rfl
    | v6 => exact absurd family other
  split
  · next gap =>
      refine .gapped ⟨v4, reads, fun bits ones => ?_⟩
      rw [Block.maskBits?_eq_some_iff.mpr ones] at gap
      cases gap
  · next bits found =>
      have ones := Block.maskBits?_eq_some_iff.mp found
      have fits : bits ≤ address.family.width := by
        rw [v4]
        exact ones.bits_le
      rw [Block.ofAddress?, dif_pos fits]
      exact .denotes (.mask reads ones v4 fits)

theorem reading_subnetOf (address : Address) (text : String) :
    Reading address (subnetChars text) (subnetOf address text) := by
  by_cases cidr : isCidr (subnetChars text) = true
  · exact reading_of_isCidr cidr
  · by_cases digits : isDigits (withoutSlash (subnetChars text)) = true
    · exact reading_of_isDigits cidr digits
    · exact reading_of_other cidr digits

/-- The blocks whose addresses no machine may have. -/
def reservedBlocks : List String :=
  ["0.0.0.0/8", "127.0.0.0/8", "169.254.0.0/16", "224.0.0.0/4", "240.0.0.0/4",
    "::/128", "::1/128", "fe80::/10", "ff00::/8"]

/-- An address in one of the reserved blocks. -/
def Reserved (a : Address) : Prop :=
  ∃ text ∈ reservedBlocks, ∃ block, Block.ofText? text = some block ∧ block.Within a

theorem within_ofText? {text : String} {a : Address} (family : Family) (value bits : Nat)
    (fits : bits ≤ (Address.ofValue family value).family.width)
    (reads : Block.ofText? text = some ⟨Address.ofValue family value, bits, fits⟩)
    (small : value < Nat.pow 2 family.width) :
    (∃ block, Block.ofText? text = some block ∧ block.Within a) ↔
      a.family = family ∧
        a.value / Nat.pow 2 (family.width - bits) = value / Nat.pow 2 (family.width - bits) := by
  have base : (Address.ofValue family value).value = value := Nat.mod_eq_of_lt small
  rw [reads]
  simp only [Option.some.injEq, exists_eq_left', ← Block.contains_iff, Block.contains,
    Bool.and_eq_true, beq_iff_eq, base]
  exact Iff.rfl

theorem isReserved_iff (a : Address) : isReserved a = true ↔ Reserved a := by
  obtain ⟨family, value, small⟩ := a
  simp only [Reserved, reservedBlocks, List.mem_cons, List.not_mem_nil, or_false,
    exists_eq_or_imp, exists_eq_left]
  rw [within_ofText? .v4 0 8 (by decide) (by decide) (by decide),
    within_ofText? .v4 (127 * 2 ^ 24) 8 (by decide) (by decide) (by decide),
    within_ofText? .v4 ((169 * 256 + 254) * 2 ^ 16) 16 (by decide) (by decide) (by decide),
    within_ofText? .v4 (224 * 2 ^ 24) 4 (by decide) (by decide) (by decide),
    within_ofText? .v4 (240 * 2 ^ 24) 4 (by decide) (by decide) (by decide),
    within_ofText? .v6 0 128 (by decide) (by decide) (by decide),
    within_ofText? .v6 1 128 (by decide) (by decide) (by decide),
    within_ofText? .v6 (0xFE80 * 2 ^ 112) 10 (by decide) (by decide) (by decide),
    within_ofText? .v6 (0xFF00 * 2 ^ 112) 8 (by decide) (by decide) (by decide)]
  cases family with
  | v4 =>
      simp [isReserved, Family.width] at small ⊢
      omega
  | v6 =>
      simp [isReserved, Family.width, or_assoc]

/-- What a lawful declaration obeys. -/
inductive Rule where
  | address
  | gateway
  | family
  | subnet
  | membership
  | unreserved
  | gatewayMembership
  | dnsServers
  deriving DecidableEq

namespace Rule

/-- The order in which the rules are tried. -/
def order : List Rule :=
  [.address, .gateway, .family, .subnet, .membership, .unreserved, .gatewayMembership, .dnsServers]

/-- A declaration obeys a rule. -/
def Holds (declared : StaticIpSpec) : Rule → Prop
  | .address => ∃ address, addressOf? declared.address = some address
  | .gateway => ∃ gateway, addressOf? declared.gateway = some gateway
  | .family => ∃ address gateway, addressOf? declared.address = some address ∧
      addressOf? declared.gateway = some gateway ∧ gateway.family = address.family
  | .subnet => ∃ address network explicitCidr, addressOf? declared.address = some address ∧
      Denotes address (subnetChars declared.subnet) network explicitCidr
  | .membership => ∃ address network explicitCidr, addressOf? declared.address = some address ∧
      Denotes address (subnetChars declared.subnet) network explicitCidr ∧ network.Within address
  | .unreserved => ∃ address, addressOf? declared.address = some address ∧ ¬ Reserved address
  | .gatewayMembership => ∃ address gateway network explicitCidr,
      addressOf? declared.address = some address ∧ addressOf? declared.gateway = some gateway ∧
      Denotes address (subnetChars declared.subnet) network explicitCidr ∧
      (address.family = .v4 → network.Within gateway)
  | .dnsServers => ∀ text ∈ declared.dnsServers, ∃ server, addressOf? text = some server

/-- A declaration obeys each of some rules. -/
def Kept (declared : StaticIpSpec) (rules : List Rule) : Prop :=
  ∀ rule ∈ rules, rule.Holds declared

theorem Kept.nil {declared : StaticIpSpec} : Kept declared [] := by
  intro rule mem
  cases mem

theorem Kept.snoc {declared : StaticIpSpec} {rules : List Rule} (kept : Kept declared rules)
    (rule : Rule) (holds : rule.Holds declared) : Kept declared (rules ++ [rule]) :=
  List.forall_mem_append.mpr ⟨kept, List.forall_mem_singleton.mpr holds⟩

/-- The first rule that a declaration breaks. -/
structure FirstBroken (declared : StaticIpSpec) (rule : Rule) : Prop where
  broken : ¬ rule.Holds declared
  earlier : ∃ before after, order = before ++ rule :: after ∧ Kept declared before

/-- The fault that tells of a broken rule. -/
inductive Tells (declared : StaticIpSpec) : Rule → StaticIpFault → Prop where
  | address : Tells declared .address (.invalidAddress declared.address)
  | gateway : Tells declared .gateway (.invalidGateway declared.gateway)
  | family : Tells declared .family
      (.invalidGateway
        (declared.gateway ++ " is not in the address family of " ++ declared.address))
  /-- A dotted mask with gaps has a fault of its own. -/
  | gapped {address : Address} {mask : Nat} (reads : addressOf? declared.address = some address)
      (gapped : Gapped address (subnetChars declared.subnet) mask) :
      Tells declared .subnet (.nonContiguousMask (Address.quadText mask))
  | subnet {address : Address} (reads : addressOf? declared.address = some address)
      (regular : ∀ mask, ¬ Gapped address (subnetChars declared.subnet) mask) :
      Tells declared .subnet (.invalidSubnet (trim declared.subnet))
  | membership {address : Address} {network : Block} {explicitCidr : Bool}
      (reads : addressOf? declared.address = some address)
      (denotes : Denotes address (subnetChars declared.subnet) network explicitCidr) :
      Tells declared .membership (.notInSubnet address.toText network.toText)
  | unreserved {address : Address} (reads : addressOf? declared.address = some address) :
      Tells declared .unreserved (.reservedRange address.toText)
  | gatewayMembership {address gateway : Address} {network : Block} {explicitCidr : Bool}
      (reads : addressOf? declared.address = some address)
      (readsGateway : addressOf? declared.gateway = some gateway)
      (denotes : Denotes address (subnetChars declared.subnet) network explicitCidr) :
      Tells declared .gatewayMembership (.gatewayNotInSubnet gateway.toText network.toText)
  | dnsServers {before after : List String} {text : String}
      (servers : declared.dnsServers = before ++ text :: after)
      (first : ∀ earlier ∈ before, ∃ server, addressOf? earlier = some server)
      (unread : addressOf? text = none) :
      Tells declared .dnsServers (.invalidDnsServer text)

end Rule

/-! ## Rules about what has been read -/

section

variable {declared : StaticIpSpec} {gateway : Address}
  (reads : addressOf? declared.address = some address)
  (readsGateway : addressOf? declared.gateway = some gateway)
  (denotes : Denotes address (subnetChars declared.subnet) network explicitCidr)

include reads

theorem holds_subnet_iff : Rule.Holds declared .subnet ↔
    ∃ network explicitCidr, Denotes address (subnetChars declared.subnet) network explicitCidr := by
  constructor
  · rintro ⟨other, network, explicitCidr, readsOther, denotes⟩
    cases reads.symm.trans readsOther
    exact ⟨network, explicitCidr, denotes⟩
  · rintro ⟨network, explicitCidr, denotes⟩
    exact ⟨address, network, explicitCidr, reads, denotes⟩

theorem holds_unreserved_iff : Rule.Holds declared .unreserved ↔ ¬ Reserved address := by
  constructor
  · rintro ⟨other, readsOther, unreserved⟩
    cases reads.symm.trans readsOther
    exact unreserved
  · exact fun unreserved => ⟨address, reads, unreserved⟩

include denotes in
theorem holds_membership_iff : Rule.Holds declared .membership ↔ network.Within address := by
  constructor
  · rintro ⟨other, block, flag, readsOther, denotesOther, within⟩
    cases reads.symm.trans readsOther
    obtain ⟨rfl, -⟩ := denotes.unique denotesOther
    exact within
  · exact fun within => ⟨address, network, explicitCidr, reads, denotes, within⟩

include readsGateway

theorem holds_family_iff : Rule.Holds declared .family ↔ gateway.family = address.family := by
  constructor
  · rintro ⟨other, router, readsOther, readsRouter, same⟩
    cases reads.symm.trans readsOther
    cases readsGateway.symm.trans readsRouter
    exact same
  · exact fun same => ⟨address, gateway, reads, readsGateway, same⟩

include denotes in
theorem holds_gatewayMembership_iff : Rule.Holds declared .gatewayMembership ↔
    (address.family = .v4 → network.Within gateway) := by
  constructor
  · rintro ⟨other, router, block, flag, readsOther, readsRouter, denotesOther, within⟩
    cases reads.symm.trans readsOther
    cases readsGateway.symm.trans readsRouter
    obtain ⟨rfl, -⟩ := denotes.unique denotesOther
    exact within
  · exact fun within =>
      ⟨address, gateway, network, explicitCidr, reads, readsGateway, denotes, within⟩

end

/-- A declaration and what validation makes of it. -/
structure Lawful (declared : StaticIpSpec) (ip : Declaration) : Prop where
  address : addressOf? declared.address = some ip.address
  gateway : addressOf? declared.gateway = some ip.gateway
  family : ip.gateway.family = ip.address.family
  subnet : Denotes ip.address (subnetChars declared.subnet) ip.network ip.explicitCidr
  membership : ip.network.Within ip.address
  unreserved : ¬ Reserved ip.address
  gatewayMembership : ip.address.family = .v4 → ip.network.Within ip.gateway
  dnsServers : List.Forall₂ (fun text server => addressOf? text = some server) declared.dnsServers
    ip.dnsServers
  interface : ip.interface = declared.interface

theorem exists_of_forall₂ {texts : List String} {servers : List Address}
    (each : List.Forall₂ (fun text server => addressOf? text = some server) texts servers) :
    ∀ text ∈ texts, ∃ server, addressOf? text = some server := by
  induction each with
  | nil => simp
  | cons reads _ ih => exact List.forall_mem_cons.mpr ⟨⟨_, reads⟩, ih⟩

theorem Lawful.holds {declared : StaticIpSpec} {ip : Declaration} (lawful : Lawful declared ip) :
    ∀ rule : Rule, rule.Holds declared
  | .address => ⟨_, lawful.address⟩
  | .gateway => ⟨_, lawful.gateway⟩
  | .family => ⟨_, _, lawful.address, lawful.gateway, lawful.family⟩
  | .subnet => ⟨_, _, _, lawful.address, lawful.subnet⟩
  | .membership => ⟨_, _, _, lawful.address, lawful.subnet, lawful.membership⟩
  | .unreserved => ⟨_, lawful.address, lawful.unreserved⟩
  | .gatewayMembership =>
      ⟨_, _, _, _, lawful.address, lawful.gateway, lawful.subnet, lawful.gatewayMembership⟩
  | .dnsServers => exists_of_forall₂ lawful.dnsServers

/-- How the DNS servers of a declaration are read. -/
inductive ServersReading : List String → Except StaticIpFault (List Address) → Prop where
  | all {texts : List String} {servers : List Address}
      (each : List.Forall₂ (fun text server => addressOf? text = some server) texts servers) :
      ServersReading texts (.ok servers)
  | upTo (before : List String) {after : List String} {text : String}
      (first : ∀ earlier ∈ before, ∃ server, addressOf? earlier = some server)
      (unread : addressOf? text = none) :
      ServersReading (before ++ text :: after) (.error (.invalidDnsServer text))

theorem serversReading_dnsServersOf (texts : List String) :
    ServersReading texts (dnsServersOf texts) := by
  induction texts with
  | nil => exact .all .nil
  | cons text rest ih =>
      unfold dnsServersOf
      split
      · next unread => exact .upTo [] (by simp) unread
      · next server reads =>
          generalize dnsServersOf rest = answer at ih ⊢
          cases ih with
          | all each => exact .all (.cons reads each)
          | upTo before first unread =>
              exact .upTo (text :: _) (List.forall_mem_cons.mpr ⟨⟨server, reads⟩, first⟩)
                unread

/-- What validation may answer. -/
inductive Verdict (declared : StaticIpSpec) : Except StaticIpFault Declaration → Prop where
  | lawful {ip : Declaration} (lawful : Lawful declared ip) : Verdict declared (.ok ip)
  | broken {rule : Rule} {fault : StaticIpFault} (first : rule.FirstBroken declared)
      (tells : rule.Tells declared fault) : Verdict declared (.error fault)

theorem verdict_validate (declared : StaticIpSpec) : Verdict declared (validate declared) := by
  have kept : Rule.Kept declared [] := .nil
  unfold validate
  split
  · next unread => exact .broken ⟨by simp [Rule.Holds, unread], _, _, rfl, kept⟩ .address
  rename_i address reads
  replace kept := kept.snoc .address ⟨_, reads⟩
  split
  · next unread => exact .broken ⟨by simp [Rule.Holds, unread], _, _, rfl, kept⟩ .gateway
  rename_i gateway readsGateway
  replace kept := kept.snoc .gateway ⟨_, readsGateway⟩
  have families := holds_family_iff reads readsGateway
  split
  · next differs => exact .broken ⟨mt families.mp differs, _, _, rfl, kept⟩ .family
  rename_i same
  have family : gateway.family = address.family := Decidable.not_not.mp same
  replace kept := kept.snoc .family (families.mpr family)
  have subnets := holds_subnet_iff reads
  have reading := reading_subnetOf address declared.subnet
  split
  · next fault refused =>
      have broken : ¬ Rule.Holds declared .subnet := by
        rw [subnets]
        rintro ⟨network, explicitCidr, denotes⟩
        rw [subnetOf_of_denotes denotes] at refused
        cases refused
      rw [refused] at reading
      refine .broken ⟨broken, _, _, rfl, kept⟩ ?_
      cases reading with
      | gapped gapped => exact .gapped reads gapped
      | malformed regular => exact .subnet reads regular
  rename_i network explicitCidr found
  rw [found] at reading
  obtain ⟨denotes⟩ := reading
  replace kept := kept.snoc .subnet (subnets.mpr ⟨_, _, denotes⟩)
  have membership := (holds_membership_iff reads denotes).trans Block.contains_iff.symm
  split
  · next outside =>
      refine .broken ⟨fun holds => ?_, _, _, rfl, kept⟩ (.membership reads denotes)
      simp [membership.mp holds] at outside
  rename_i inside
  have inside : network.contains address = true := by simpa using inside
  replace kept := kept.snoc .membership (membership.mpr inside)
  have unreserved := holds_unreserved_iff reads
  split
  · next reserved =>
      have reserved := (isReserved_iff address).mp reserved
      exact .broken ⟨fun holds => unreserved.mp holds reserved, _, _, rfl, kept⟩ (.unreserved reads)
  rename_i free
  have free : ¬ Reserved address := fun reserved => free ((isReserved_iff address).mpr reserved)
  replace kept := kept.snoc .unreserved (unreserved.mpr free)
  have routes := holds_gatewayMembership_iff reads readsGateway denotes
  rw [← Block.contains_iff] at routes
  split
  · next outside =>
      refine .broken ⟨fun holds => ?_, _, _, rfl, kept⟩
        (.gatewayMembership reads readsGateway denotes)
      simp only [Bool.and_eq_true, decide_eq_true_eq, Bool.not_eq_true'] at outside
      exact Bool.false_ne_true (outside.2.symm.trans (routes.mp holds outside.1))
  rename_i reachable
  have reachable : address.family = .v4 → network.contains gateway = true := by
    intro v4
    simpa [v4] using reachable
  replace kept := kept.snoc .gatewayMembership (routes.mpr reachable)
  have servers := serversReading_dnsServersOf declared.dnsServers
  split
  · next fault refused =>
      rw [refused] at servers
      generalize texts : declared.dnsServers = dns at servers
      obtain _ | ⟨before, first, unread⟩ := servers
      refine .broken ⟨fun each => ?_, _, _, rfl, kept⟩ (.dnsServers texts first unread)
      obtain ⟨server, found⟩ := each _ (texts ▸ List.mem_append_right _ (.head _))
      rw [unread] at found
      cases found
  rename_i dnsServers found
  rw [found] at servers
  generalize texts : declared.dnsServers = dns at servers
  obtain ⟨each⟩ := servers
  exact .lawful ⟨reads, readsGateway, family, denotes, Block.contains_iff.mp inside, free,
    fun v4 => Block.contains_iff.mp (reachable v4), texts ▸ each, rfl⟩

/-- Validation accepts the declarations that obey every rule and no others, with a network that has
    no further bits and contains the address. It refuses every other declaration, and the fault
    tells of the first rule that the declaration breaks. -/
theorem validate_decides (declared : StaticIpSpec) :
    ((∃ ip, validate declared = .ok ip) ↔ ∀ rule : Rule, rule.Holds declared) ∧
      (∀ ip, validate declared = .ok ip →
        Lawful declared ip ∧ ip.network.Cleared ∧ ip.network.Within ip.address) ∧
      (∀ fault, validate declared = .error fault →
        ∃ rule : Rule, rule.FirstBroken declared ∧ rule.Tells declared fault) := by
  have verdict := verdict_validate declared
  generalize validate declared = answer at verdict
  cases verdict with
  | @lawful ip lawful =>
      refine ⟨⟨fun _ => lawful.holds, fun _ => ⟨ip, rfl⟩⟩, ?_, fun fault refused => by cases refused⟩
      rintro _ ⟨⟩
      exact ⟨lawful, lawful.subnet.cleared, lawful.membership⟩
  | @broken rule fault first tells =>
      refine ⟨⟨?_, fun holds => absurd (holds rule) first.broken⟩, ?_, ?_⟩
      · rintro ⟨ip, accepted⟩
        cases accepted
      · intro ip accepted
        cases accepted
      · rintro _ ⟨⟩
        exact ⟨rule, first, tells⟩

/-- A block without leading bits holds every IPv4 address; one of all bits holds no other gateway. -/
example :
    (validate { address := "203.0.113.7", gateway := "10.0.0.1", subnet := "/0" }).isOk = true ∧
      validate { address := "203.0.113.7", gateway := "203.0.113.1", subnet := "255.255.255.255" } =
        .error (.gatewayNotInSubnet "203.0.113.1" "203.0.113.7/32") := by
  decide +kernel

end MachineProvisioning.StaticIp
