import BulletinPipeline.Text.Quoted
import Mathlib.Data.Nat.Digits.Defs
import Mathlib.Data.List.Basic

namespace BulletinPipeline.Text

variable {c d : Char} {cs ds r s : List Char}

-- The value of a small hexadecimal digit.
def hexValue (c : Char) : Nat :=
  if c.toNat < 0x61 then c.toNat - 0x30 else c.toNat - 0x57

def ofHex (cs : List Char) : Nat :=
  cs.foldl (fun n c => 16 * n + hexValue c) 0

theorem hexValue_digitChar : ∀ d < 16, hexValue d.digitChar = d := by
  decide

theorem digitChar_ne_brace : ∀ d < 16, d.digitChar ≠ '\x7d' := by
  decide

theorem hexDigits_eq (n : Nat) :
    hexDigits n = if n < 16 then [n.digitChar] else hexDigits (n / 16) ++ [(n % 16).digitChar] :=
  Nat.toDigits_eq_if (by decide)

theorem ofHex_hexDigits (n : Nat) : ofHex (hexDigits n) = n := by
  rw [hexDigits_eq]
  split
  case isTrue h => simp [ofHex, hexValue_digitChar n h]
  case isFalse h =>
    have hi := ofHex_hexDigits (n / 16)
    have hd := hexValue_digitChar (n % 16) (Nat.mod_lt n (by decide))
    rw [ofHex] at hi
    rw [ofHex, List.foldl_append, hi, List.foldl_cons, List.foldl_nil, hd, Nat.div_add_mod]
termination_by n
decreasing_by omega

theorem ne_brace_of_mem_hexDigits (n : Nat) : ∀ c ∈ hexDigits n, c ≠ '\x7d' := by
  rw [hexDigits_eq]
  split
  case isTrue h => simp [digitChar_ne_brace n h]
  case isFalse h =>
    have hi := ne_brace_of_mem_hexDigits (n / 16)
    have hd := digitChar_ne_brace (n % 16) (Nat.mod_lt n (by decide))
    rw [List.forall_mem_append]
    exact ⟨hi, List.forall_mem_singleton.mpr hd⟩
termination_by n
decreasing_by omega

-- What a character stands for behind a backslash.
def unescape (c : Char) : Char :=
  if c = 'n' then '\n' else if c = 't' then '\t' else if c = 'r' then '\r' else if c = '0' then '\x00' else c

-- The first character of what is written inside quotes, and what follows it.
def readChar? : List Char → Option (Char × List Char)
  | '\\' :: 'u' :: '\x7b' :: cs =>
    some (Char.ofNat (ofHex (cs.takeWhile (· ≠ '\x7d'))), (cs.dropWhile (· ≠ '\x7d')).tail)
  | '\\' :: c :: cs             => some (unescape c, cs)
  | c :: cs                     => some (c, cs)
  | []                          => none

theorem readChar?_hex (c : Char) (cs : List Char) :
    readChar? ('\\' :: 'u' :: '\x7b' :: (hexDigits c.toNat ++ '\x7d' :: cs)) = some (c, cs) := by
  have hn : ∀ d ∈ hexDigits c.toNat, decide (d ≠ '\x7d') := by simpa using ne_brace_of_mem_hexDigits c.toNat
  rw [readChar?, List.takeWhile_append_of_pos hn, List.dropWhile_append_of_pos hn]
  simp [ofHex_hexDigits, Char.ofNat_toNat]

theorem readChar?_quoteChar (c : Char) (cs : List Char) : readChar? (quoteChar c ++ cs) = some (c, cs) := by
  unfold quoteChar
  split
  case isTrue h => simp [h, readChar?, unescape]
  split
  case isTrue h => simp [h, readChar?, unescape]
  split
  case isTrue h => simp [h, readChar?, unescape]
  split
  case isTrue h => simp [h, readChar?, unescape]
  split
  case isTrue h => simp [h, readChar?, unescape]
  split
  case isTrue h =>
    have : c = '\x00' := Char.toNat_inj.mp h
    simp [this, readChar?, unescape]
  split
  case isTrue => simp [readChar?, *]
  case isFalse => simpa using readChar?_hex c cs

theorem quoteChar_unique (h : quoteChar c ++ r = quoteChar d ++ s) : c = d ∧ r = s := by
  have hr := readChar?_quoteChar c r
  rw [h, readChar?_quoteChar] at hr
  simpa [eq_comm] using hr

-- What is written inside quotes does not look like their end.
theorem quoteChar_ne_quote (c : Char) (r s : List Char) : quoteChar c ++ r ≠ '"' :: s := by
  intro h
  have hr := readChar?_quoteChar c r
  rw [h] at hr
  cases hr
  simp [quoteChar] at h

theorem quoteChars_unique (h : cs.flatMap quoteChar ++ '"' :: r = ds.flatMap quoteChar ++ '"' :: s) :
    cs = ds ∧ r = s := by
  induction cs generalizing ds
  case nil =>
    cases ds
    case nil       => simpa using h
    case cons d ds =>
      rw [List.flatMap_cons, List.append_assoc] at h
      exact absurd h.symm (quoteChar_ne_quote d _ r)
  case cons c cs hi =>
    rw [List.flatMap_cons, List.append_assoc] at h
    cases ds
    case nil       => exact absurd h (quoteChar_ne_quote c _ s)
    case cons d ds =>
      rw [List.flatMap_cons, List.append_assoc] at h
      obtain ⟨hc, h⟩ := quoteChar_unique h
      obtain ⟨hs, hr⟩ := hi h
      exact ⟨hc ▸ hs ▸ rfl, hr⟩

theorem quote_unique {a b : String} (h : (quote a).toList ++ r = (quote b).toList ++ s) : a = b ∧ r = s := by
  simp only [quote, String.toList_ofList, List.cons_append, List.append_assoc, List.cons.injEq, true_and,
    List.nil_append] at h
  obtain ⟨he, hr⟩ := quoteChars_unique h
  exact ⟨String.toList_inj.mp he, hr⟩

end BulletinPipeline.Text
