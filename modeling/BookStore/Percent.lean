import Mathlib.Data.List.Basic
import Mathlib.Tactic.Common

/-!
# Percent-encoding

Texts in URLs: the bytes of a text that are plain are written as they are, and the others as a
percent sign with two digits; an escaping may write a blank as a plus.  A query has names and
values.

* `Escaping.decode_encode`: a text that is written is read again, also where a plus is read as a
  blank and was not written for one.
* `Escaping.readQuery_query`: so is a query.
-/

namespace BookStore
namespace Percent

/-- The digit of a number below 16 -/
def hexDigit (n : Nat) : Char :=
  if n < 10 then Char.ofNat (48 + n) else Char.ofNat (55 + n)

/-- The number of a digit -/
def hexValue (c : Char) : Option Nat :=
  if 48 ≤ c.toNat ∧ c.toNat ≤ 57 then some (c.toNat - 48)
  else if 65 ≤ c.toNat ∧ c.toNat ≤ 70 then some (c.toNat - 55)
  else if 97 ≤ c.toNat ∧ c.toNat ≤ 102 then some (c.toNat - 87)
  else none

theorem hexValue_hexDigit {n : Nat} (hn : n < 16) : hexValue (hexDigit n) = some n := by
  have hall : ∀ n, n < 16 → hexValue (hexDigit n) = some n := by decide
  exact hall n hn

/-- A digit is none of the signs. -/
theorem hexDigit_ne {n : Nat} (hn : n < 16) :
    hexDigit n ≠ '&' ∧ hexDigit n ≠ '=' := by
  have hall : ∀ n, n < 16 → hexDigit n ≠ '&' ∧ hexDigit n ≠ '=' := by decide
  exact hall n hn

/-- The character of a byte -/
def charOf (b : UInt8) : Char :=
  Char.ofNat b.toNat

theorem toNat_charOf (b : UInt8) : (charOf b).toNat = b.toNat := by
  have hb : b.toNat < 256 := b.toNat_lt
  have hvalid : b.toNat.isValidChar := .inl (by omega)
  rw [charOf, Char.ofNat, dif_pos hvalid]
  rfl

theorem charOf_eq_iff {b : UInt8} {c : Char} : charOf b = c ↔ b.toNat = c.toNat := by
  rw [← toNat_charOf]
  exact ⟨fun h => h ▸ rfl, fun h => Char.toNat_inj.mp h⟩

/-- How the bytes of a text are written -/
structure Escaping where
  /-- The bytes that are written as they are -/
  plain : UInt8 → Bool
  /-- A blank is written as a plus. -/
  plus : Bool
  ascii : ∀ b, plain b = true → b.toNat < 128
  percent : plain 37 = false
  blank : plain 43 = false
  separators : plain 38 = false ∧ plain 61 = false

namespace Escaping

variable (e : Escaping)

def byte (b : UInt8) : List Char :=
  if e.plus = true ∧ b = 32 then ['+']
  else if e.plain b = true then [charOf b]
  else ['%', hexDigit (b.toNat / 16), hexDigit (b.toNat % 16)]

/-- The text as it is written -/
def encode (s : String) : List Char :=
  s.toByteArray.data.toList.flatMap e.byte

/-- The bytes of what is written -/
def decodeBytes : List Char → Option (List UInt8)
  | [] => some []
  | c :: cs =>
      if c = '%' then
        match cs with
        | x :: y :: cs =>
            (hexValue x).bind fun high => (hexValue y).bind fun low =>
              (decodeBytes cs).map (UInt8.ofNat (16 * high + low) :: ·)
        | _ => none
      else if e.plus = true ∧ c = '+' then (decodeBytes cs).map (32 :: ·)
      else if c.toNat < 128 then (decodeBytes cs).map (UInt8.ofNat c.toNat :: ·)
      else none

def decode (text : List Char) : Option String :=
  (e.decodeBytes text).bind fun bytes => String.fromUTF8? ⟨bytes.toArray⟩

variable {e} {e' : Escaping}

theorem decodeBytes_cons {c : Char} (hc : c ≠ '%') (cs : List Char) :
    e.decodeBytes (c :: cs) =
      if e.plus = true ∧ c = '+' then (e.decodeBytes cs).map (32 :: ·)
      else if c.toNat < 128 then (e.decodeBytes cs).map (UInt8.ofNat c.toNat :: ·)
      else none := by
  rw [decodeBytes.eq_def]
  exact if_neg hc

/-- A byte that is written as it is gives no sign that is not. -/
theorem charOf_ne
    {b sign : UInt8} (hb : e.plain b = true) (hsign : e.plain sign = false)
    {c : Char} (hc : sign.toNat = c.toNat) : charOf b ≠ c := by
  intro h
  have hsame : b = sign := UInt8.toNat_inj.mp ((charOf_eq_iff.mp h).trans hc.symm)
  rw [hsame, hsign] at hb
  cases hb

theorem decodeBytes_byte
    (hread : e.plus = true → e'.plus = true) (b : UInt8) (cs : List Char) :
    e'.decodeBytes (e.byte b ++ cs) = (e'.decodeBytes cs).map (b :: ·) := by
  have hb : b.toNat < 256 := b.toNat_lt
  rw [byte]
  split_ifs with hblank hplain
  · obtain ⟨hplus, rfl⟩ := hblank
    rw [List.singleton_append, decodeBytes_cons (by decide), if_pos ⟨hread hplus, rfl⟩]
  · have hpercent : charOf b ≠ '%' := charOf_ne hplain e.percent rfl
    have hplus : ¬(e'.plus = true ∧ charOf b = '+') :=
      fun h => charOf_ne hplain e.blank rfl h.2
    rw [List.singleton_append, decodeBytes_cons hpercent, if_neg hplus, toNat_charOf,
      if_pos (e.ascii b hplain), UInt8.ofNat_toNat]
  · have hhigh : b.toNat / 16 < 16 := by omega
    have hlow : b.toNat % 16 < 16 := by omega
    have hbyte : 16 * (b.toNat / 16) + b.toNat % 16 = b.toNat := by omega
    simp only [List.cons_append, List.nil_append, decodeBytes, if_true, hexValue_hexDigit hhigh,
      hexValue_hexDigit hlow, Option.bind_some, hbyte, UInt8.ofNat_toNat]

theorem decodeBytes_flatMap
    (hread : e.plus = true → e'.plus = true) (bytes : List UInt8) :
    e'.decodeBytes (bytes.flatMap e.byte) = some bytes := by
  induction bytes with
  | nil =>
      simp [decodeBytes]
  | cons b bytes ih =>
      rw [List.flatMap_cons, decodeBytes_byte hread, ih, Option.map_some]

theorem decode_encode (hread : e.plus = true → e'.plus = true) (s : String) :
    e'.decode (e.encode s) = some s := by
  rw [decode, encode, decodeBytes_flatMap hread, Option.bind_some, Array.toArray_toList]
  exact dif_pos s.isValidUTF8

/-- No separator is in what is written. -/
theorem not_mem_byte (b : UInt8) : '&' ∉ e.byte b ∧ '=' ∉ e.byte b := by
  have hb : b.toNat < 256 := b.toNat_lt
  have hhigh := hexDigit_ne (n := b.toNat / 16) (by omega)
  have hlow := hexDigit_ne (n := b.toNat % 16) (by omega)
  rw [byte]
  split_ifs with hblank hplain
  · decide
  · have hand : charOf b ≠ '&' := charOf_ne hplain e.separators.1 rfl
    have hequals : charOf b ≠ '=' := charOf_ne hplain e.separators.2 rfl
    exact ⟨by simpa using hand.symm, by simpa using hequals.symm⟩
  · simp only [List.mem_cons, List.not_mem_nil, or_false, not_or]
    exact ⟨⟨by decide, hhigh.1.symm, hlow.1.symm⟩, by decide, hhigh.2.symm, hlow.2.symm⟩

theorem not_mem_encode (s : String) : '&' ∉ e.encode s ∧ '=' ∉ e.encode s := by
  simp only [encode, List.mem_flatMap, not_exists, not_and]
  exact ⟨fun b _ => (not_mem_byte b).1, fun b _ => (not_mem_byte b).2⟩

/-! ### Queries -/

variable (e)

/-- A name with its value -/
def entry (p : String × String) : List Char :=
  e.encode p.1 ++ '=' :: e.encode p.2

def query (pairs : List (String × String)) : List Char :=
  ['&'].intercalate (pairs.map e.entry)

def readEntry (text : List Char) : Option (String × String) :=
  (e.decode (text.takeWhile (· ≠ '='))).bind fun name =>
    (e.decode ((text.dropWhile (· ≠ '=')).drop 1)).map fun value => (name, value)

/-- The names and values of a query -/
def readQuery (text : List Char) : Option (List (String × String)) :=
  ((text.splitOn '&').filter (· ≠ [])).mapM e.readEntry

variable {e}

theorem readEntry_entry (hread : e.plus = true → e'.plus = true) (p : String × String) :
    e'.readEntry (e.entry p) = some p := by
  have hname : ∀ c, c ∈ e.encode p.1 → decide (c ≠ '=') = true := by
    intro c hc
    refine decide_eq_true ?_
    rintro rfl
    exact (not_mem_encode p.1).2 hc
  rw [readEntry, entry, List.takeWhile_append_of_pos hname, List.dropWhile_append_of_pos hname]
  simp [decode_encode hread]

theorem entry_ne_nil (p : String × String) : e.entry p ≠ [] := by
  simp [entry]

theorem not_mem_entry (p : String × String) : '&' ∉ e.entry p := by
  simp [entry, (not_mem_encode p.1).1, (not_mem_encode p.2).1]

theorem mapM_readEntry
    (hread : e.plus = true → e'.plus = true) (pairs : List (String × String)) :
    (pairs.map e.entry).mapM e'.readEntry = some pairs := by
  induction pairs with
  | nil =>
      rfl
  | cons p pairs ih =>
      rw [List.map_cons, List.mapM_cons, readEntry_entry hread, ih]
      rfl

theorem readQuery_query
    (hread : e.plus = true → e'.plus = true) (pairs : List (String × String)) :
    e'.readQuery (e.query pairs) = some pairs := by
  cases pairs with
  | nil =>
      rfl
  | cons p pairs =>
      have hfilter : ((p :: pairs).map e.entry).filter (· ≠ []) = (p :: pairs).map e.entry := by
        refine List.filter_eq_self.mpr fun text htext => ?_
        obtain ⟨q, -, rfl⟩ := List.mem_map.mp htext
        exact decide_eq_true (entry_ne_nil q)
      have hsplit : (e.query (p :: pairs)).splitOn '&' = (p :: pairs).map e.entry := by
        refine List.splitOn_intercalate '&' (fun text htext => ?_) (by simp)
        obtain ⟨q, -, rfl⟩ := List.mem_map.mp htext
        exact not_mem_entry q
      rw [readQuery, hsplit, hfilter, mapM_readEntry hread]

end Escaping
end Percent
end BookStore
