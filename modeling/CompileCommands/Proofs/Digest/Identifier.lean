/-
  What an identifier tells of the digest behind it.

  * `Identifier.IsFormed`: the shape of an identifier in print; `isFormed_format`: it does not
    depend on the octets;
  * `Identifier.read?`: the octets that an identifier shows; `read?_format`: they are those that
    were written;
  * `Identifier.keptBits`: how many low bits of an octet the stamp leaves as they are;
    `octet_stamped`: what becomes of an octet; `IsStamped`: the same for the three kinds of octets;
  * `stableIdentifier_shows`: an identifier shows the digest of its text, but for six bits that are
    forced, and so two texts share one exactly if their digests agree elsewhere.
-/
import CompileCommands.Digest.Identifier
import CompileCommands.Proofs.Text.Hex
import CompileCommands.Proofs.Text.Intercalate
import Mathlib.Data.Nat.Bitwise

namespace CompileCommands

open Text

namespace Identifier

/-! ## In print -/

/-- The shape of an identifier: five groups of lower-case hexadecimal digits with dashes between
    them. -/
structure IsFormed (text : String) : Prop where
  length : text.length = 36
  dashes : ∀ i, text.toList[i]? = some '-' ↔ i ∈ [8, 13, 18, 23]
  digits : ∀ c ∈ text.toList, c ≠ '-' → c ∈ hexDigits

/-- The octets that an identifier shows: those of its groups of digits, the first three groups
    from their end to their beginning. -/
def read? (text : String) : Option Bytes := do
  let groups ← (text.toList.splitOn '-').mapM bytesOfHex?
  return (groups.take 3).flatMap List.reverse ++ (groups.drop 3).flatten

variable (bytes : Bytes)

/-- The octets of a group. -/
def groupOf (group : List Nat) : Bytes :=
  group.map (bytes.getD · 0)

theorem format_eq : format bytes = ['-'].intercalate ((layout.map (groupOf bytes)).map hexBytes) :=
  rfl

/-- Which characters are dashes does not depend on the octets. -/
theorem map_isDash_format : (format bytes).map (fun c => decide (c = '-')) =
    [true].intercalate ([8, 4, 4, 4, 12].map fun count => List.replicate count false) := by
  have hgroup (group : List Nat) : (hexBytes (groupOf bytes group)).map (fun c => decide (c = '-')) =
      List.replicate (2 * group.length) false := by
    rw [List.eq_replicate_iff]
    refine ⟨by rw [List.length_map, length_hexBytes, groupOf, List.length_map], fun b hb => ?_⟩
    obtain ⟨c, hc, rfl⟩ := List.mem_map.1 hb
    rw [decide_eq_false_iff_not]
    rintro rfl
    exact dash_not_mem_hexBytes _ hc
  rw [format_eq, map_intercalate]
  simp only [layout, List.map_cons, List.map_nil, hgroup]
  rfl

theorem isFormed_format : IsFormed (String.ofList (format bytes)) := by
  refine ⟨?length, fun i => ?dashes, fun c hc hdash => ?digits⟩
  case length =>
    rw [String.length_ofList]
    rfl
  case dashes =>
    have hdash : (format bytes)[i]? = some '-' ↔
        ((format bytes).map fun c => decide (c = '-'))[i]? = some true := by
      simp
    have hshort : ∀ i < 36, ([true].intercalate ([8, 4, 4, 4, 12].map fun count =>
        List.replicate count false))[i]? = some true ↔ i ∈ [8, 13, 18, 23] := by decide
    rw [String.toList_ofList, hdash, map_isDash_format]
    by_cases hi : i < 36
    · exact hshort i hi
    · rw [List.getElem?_eq_none (Nat.le_of_not_lt hi)]
      refine iff_of_false nofun fun hmem => hi ?_
      exact (by decide : ∀ i ∈ [8, 13, 18, 23], i < 36) i hmem
  case digits =>
    rw [String.toList_ofList, format_eq] at hc
    obtain hc | ⟨part, hpart, hc⟩ := mem_of_mem_intercalate hc
    · exact absurd (List.mem_singleton.1 hc) hdash
    · obtain ⟨group, -, rfl⟩ := List.mem_map.1 hpart
      exact mem_hexDigits_of_mem_hexBytes hc

variable {bytes}

theorem read?_format (h : bytes.length = 16) : read? (String.ofList (format bytes)) = some bytes := by
  have hsplit : (format bytes).splitOn '-' = (layout.map (groupOf bytes)).map hexBytes := by
    rw [format_eq]
    refine List.splitOn_intercalate '-' (fun part hpart => ?_) (by simp [layout])
    obtain ⟨group, -, rfl⟩ := List.mem_map.1 hpart
    exact dash_not_mem_hexBytes group
  have hread : ((layout.map (groupOf bytes)).map hexBytes).mapM bytesOfHex? =
      some (layout.map (groupOf bytes)) := by
    simp only [layout, List.map_cons, List.map_nil, List.mapM_cons, List.mapM_nil,
      bytesOfHex?_hexBytes]
    rfl
  have hall : groupOf bytes (List.range 16) = bytes := by
    refine List.ext_getElem (by rw [groupOf, List.length_map, List.length_range, h]) ?_
    intro i hi hi'
    simp [groupOf, hi']
  rw [read?, String.toList_ofList, hsplit, hread, ← hall]
  rfl

/-! ## The stamp -/

/-- An octet of a sequence, as a number. -/
def octet (bytes : Bytes) (i : Nat) : Nat :=
  (bytes.getD i 0).toNat

/-- How many low bits of an octet the stamp leaves as they are: four of octet 7, six of octet 8,
    and all of the others. -/
def keptBits (i : Nat) : Nat :=
  if i = 7 then 4 else if i = 8 then 6 else 8

/-- What the stamp puts in front of the bits that it leaves. -/
def front (i : Nat) : Nat :=
  if i = 7 then 0x40 else if i = 8 then 0x80 else 0

/-- The octets are the first sixteen of the digest, with version 4 in front of the low nibble of
    octet 7, and the bits `10` in front of the low six bits of octet 8. -/
structure IsStamped (digest bytes : Bytes) : Prop where
  length : bytes.length = 16
  plain : ∀ i < 16, i ≠ 7 → i ≠ 8 → octet bytes i = octet digest i
  version : octet bytes 7 = 0x40 + octet digest 7 % 16
  variant : octet bytes 8 = 0x80 + octet digest 8 % 64

/-- The first sixteen octets of two digests agree in all bits that the stamp leaves. -/
def AgreeOnKept (digest other : Bytes) : Prop :=
  ∀ i < 16, ∀ j < keptBits i, (octet digest i).testBit j = (octet other i).testBit j

/-- An octet of which the low bits are kept, with others in front of them. -/
theorem toNat_stamp (low high : Nat) {mask top : UInt8} {a : Nat} (hmask : mask.toNat = 2 ^ low - 1)
    (htop : top.toNat = 2 ^ high * a) (hle : low ≤ high) (b : UInt8) :
    ((b &&& mask) ||| top).toNat = top.toNat + b.toNat % 2 ^ low := by
  have hlow : b.toNat % 2 ^ low < 2 ^ high :=
    Nat.lt_of_lt_of_le (Nat.mod_lt _ (Nat.two_pow_pos low)) (Nat.pow_le_pow_right (by decide) hle)
  rw [UInt8.toNat_or, UInt8.toNat_and, hmask, htop, Nat.and_two_pow_sub_one_eq_mod, Nat.or_comm,
    ← Nat.two_pow_add_eq_or_of_lt hlow]

variable {digest other : Bytes}

theorem length_stamped (h : 16 ≤ digest.length) : (stamped digest).length = 16 := by
  rw [stamped, List.length_modify, List.length_modify, List.length_take, Nat.min_eq_left h]

/-- All other octets are kept as they are. -/
theorem front_add_of_ne {i : Nat} (hversion : i ≠ 7) (hvariant : i ≠ 8) :
    front i + octet digest i % 2 ^ keptBits i = octet digest i := by
  rw [front, keptBits, if_neg hversion, if_neg hversion, if_neg hvariant, if_neg hvariant, octet,
    Nat.mod_eq_of_lt (digest.getD i 0).toNat_lt, Nat.zero_add]

/-- What becomes of an octet. -/
theorem octet_stamped (h : 16 ≤ digest.length) {i : Nat} (hi : i < 16) :
    octet (stamped digest) i = front i + octet digest i % 2 ^ keptBits i := by
  have hget : digest[i]? = some (digest.getD i 0) := by
    rw [List.getD_eq_getElem?_getD, List.getElem?_eq_getElem (Nat.lt_of_lt_of_le hi h),
      Option.getD_some]
  rw [octet, List.getD_eq_getElem?_getD, stamped, List.getElem?_modify, List.getElem?_modify,
    List.getElem?_take, if_pos hi, hget]
  by_cases hversion : i = 7
  · subst hversion
    exact toNat_stamp 4 6 (a := 1) rfl rfl (by decide) _
  by_cases hvariant : i = 8
  · subst hvariant
    exact toNat_stamp 6 7 (a := 1) rfl rfl (by decide) _
  · rw [front_add_of_ne hversion hvariant]
    simp [octet, Ne.symm hversion, Ne.symm hvariant]

theorem isStamped_stamped (h : 16 ≤ digest.length) : IsStamped digest (stamped digest) := by
  refine ⟨length_stamped h, fun i hi hversion hvariant => ?_, octet_stamped h (by decide),
    octet_stamped h (by decide)⟩
  rw [octet_stamped h hi, front_add_of_ne hversion hvariant]

/-- Numbers agree modulo a power of two exactly if they agree in so many bits. -/
theorem mod_two_pow_eq_iff {m n k : Nat} :
    m % 2 ^ k = n % 2 ^ k ↔ ∀ j < k, m.testBit j = n.testBit j := by
  constructor
  · intro h j hj
    have hbit := congrArg (Nat.testBit · j) h
    simpa [Nat.testBit_mod_two_pow, hj] using hbit
  · intro h
    refine Nat.eq_of_testBit_eq fun j => ?_
    rw [Nat.testBit_mod_two_pow, Nat.testBit_mod_two_pow]
    by_cases hj : j < k
    · rw [h j hj]
    · simp [hj]

theorem stamped_eq_iff (h : 16 ≤ digest.length) (hother : 16 ≤ other.length) :
    stamped digest = stamped other ↔ AgreeOnKept digest other := by
  have hoctets : stamped digest = stamped other ↔
      ∀ i < 16, octet (stamped digest) i = octet (stamped other) i := by
    refine ⟨fun heq i _ => by rw [heq], fun hall => ?_⟩
    refine List.ext_getElem (by rw [length_stamped h, length_stamped hother]) fun i hi hi' => ?_
    have hoctet := hall i (by rwa [length_stamped h] at hi)
    rw [octet, octet, List.getD_eq_getElem _ _ hi, List.getD_eq_getElem _ _ hi'] at hoctet
    exact UInt8.toNat_inj.1 hoctet
  rw [hoctets]
  refine forall₂_congr fun i hi => ?_
  rw [octet_stamped h hi, octet_stamped hother hi, Nat.add_left_cancel_iff, mod_two_pow_eq_iff]

end Identifier

open Identifier

/-- **An identifier shows the digest of its text.** It is formed of five groups of lower-case
    hexadecimal digits. The octets read from it are the first sixteen of the digest, with the stamp
    of a random identifier, which stands in the characters 14 and 19. Two texts share an identifier
    exactly if their digests agree in all the bits that the stamp leaves. -/
theorem stableIdentifier_shows (value : String) :
    IsFormed (stableIdentifier value) ∧
      (∃ bytes, read? (stableIdentifier value) = some bytes ∧
        IsStamped (Sha256.digest (utf8Bytes value)) bytes) ∧
      (stableIdentifier value).toList[14]? = some '4' ∧
      (∃ c ∈ ['8', '9', 'a', 'b'], (stableIdentifier value).toList[19]? = some c) ∧
      ∀ other, stableIdentifier value = stableIdentifier other ↔
        AgreeOnKept (Sha256.digest (utf8Bytes value)) (Sha256.digest (utf8Bytes other)) := by
  have hlong (text : String) : 16 ≤ (Sha256.digest (utf8Bytes text)).length := by
    rw [Sha256.length_digest]
    decide
  have hread (text : String) : read? (stableIdentifier text) =
      some (stamped (Sha256.digest (utf8Bytes text))) := read?_format (length_stamped (hlong text))
  have hstamped := isStamped_stamped (hlong value)
  refine ⟨isFormed_format _, ⟨_, hread value, hstamped⟩, ?version, ?variant, fun other => ?shared⟩
  case version =>
    have hdigit : octet (stamped (Sha256.digest (utf8Bytes value))) 7 / 16 = 4 := by
      have := hstamped.version
      omega
    have hchar : (stableIdentifier value).toList[14]? =
        some (hexDigit (octet (stamped (Sha256.digest (utf8Bytes value))) 7 / 16)) := by
      rw [stableIdentifier, String.toList_ofList]
      rfl
    rw [hchar, hdigit]
    rfl
  case variant =>
    have hdigit : 8 ≤ octet (stamped (Sha256.digest (utf8Bytes value))) 8 / 16 ∧
        octet (stamped (Sha256.digest (utf8Bytes value))) 8 / 16 < 12 := by
      have := hstamped.variant
      omega
    have hchar : (stableIdentifier value).toList[19]? =
        some (hexDigit (octet (stamped (Sha256.digest (utf8Bytes value))) 8 / 16)) := by
      rw [stableIdentifier, String.toList_ofList]
      rfl
    have hall : ∀ d < 12, 8 ≤ d → hexDigit d ∈ ['8', '9', 'a', 'b'] := by decide
    exact ⟨_, hall _ hdigit.2 hdigit.1, hchar⟩
  case shared =>
    rw [← stamped_eq_iff (hlong value) (hlong other)]
    refine ⟨fun heq => ?_, fun heq => by rw [stableIdentifier, stableIdentifier, heq]⟩
    have hsame := hread value
    rw [heq, hread other] at hsame
    exact (Option.some.inj hsame).symm

end CompileCommands
