import Mathlib.Data.List.TakeWhile
import NotePager.Encoding.Base64Url
import NotePager.Proofs.Encoding.Hex

/-!
# Reading back Base64

What is written in Base64 for URLs is read back as it was, with padding or without it
(`decode_encode_padded`). In between stand the six bit values that the characters spell (`sextets`):
writing turns each into its symbol, and no symbol is the padding sign, so reading finds the same
values again. Whatever is cut off takes bytes with it: what is left stands for fewer of the bytes,
if it stands for any (`decode_cut`). No more than three bytes come out of four characters
(`length_of_decode`), and always some if these are letters and digits in whole groups
(`exists_decode`).
-/

namespace NotePager.Encoding.Base64Url

/-- The six bit values of some bytes, the last one filled up with zeros. -/
def sextets : List UInt8 → List Nat
  | a :: b :: c :: rest =>
    let n := a.toNat * 65536 + b.toNat * 256 + c.toNat
    n / 262144 :: n / 4096 % 64 :: n / 64 % 64 :: n % 64 :: sextets rest
  | [a, b] =>
    let n := a.toNat * 1024 + b.toNat * 4
    [n / 4096, n / 64 % 64, n % 64]
  | [a] =>
    let n := a.toNat * 16
    [n / 64, n % 64]
  | [] => []

/-- `sextets` are below 64. -/
theorem sextets_lt {bytes : List UInt8} : ∀ n ∈ sextets bytes, n < 64 := by
  induction bytes using sextets.induct with
  | case1 a b c rest ih =>
    have ha := a.toNat_lt
    have hb := b.toNat_lt
    have hc := c.toNat_lt
    intro m hm
    simp only [sextets, List.mem_cons] at hm
    rcases hm with rfl | rfl | rfl | rfl | hm
    · omega
    · omega
    · omega
    · omega
    · exact ih m hm
  | case2 a b =>
    have ha := a.toNat_lt
    have hb := b.toNat_lt
    intro m hm
    simp only [sextets, List.mem_cons, List.not_mem_nil, or_false] at hm
    omega
  | case3 a =>
    have ha := a.toNat_lt
    intro m hm
    simp only [sextets, List.mem_cons, List.not_mem_nil, or_false] at hm
    omega
  | case4 => simp [sextets]

/-- `encodeOnto` appends the symbols of the `sextets`. -/
theorem encodeOnto_eq (written : List Char) (bytes : List UInt8) :
    encodeOnto written bytes = written.reverse ++ (sextets bytes).map symbol := by
  induction written, bytes using encodeOnto.induct with
  | case1 written a b c rest n ih =>
    rw [encodeOnto, ih]
    simp [sextets, n]
  | case2 written a b => simp [encodeOnto, sextets]
  | case3 written a => simp [encodeOnto, sextets]
  | case4 written => simp [encodeOnto, sextets]

/-- `value?` reads back `symbol`. -/
theorem value?_symbol : ∀ n < 64, value? (symbol n) = some n := by decide

/-- `symbol` is never the padding sign. -/
theorem symbol_ne_pad : ∀ n < 64, symbol n ≠ '=' := by decide

/-- `value?_symbol` along a list. -/
theorem mapM_value?_symbol {ns : List Nat} (h : ∀ n ∈ ns, n < 64) :
    (ns.map symbol).mapM value? = some ns := by
  induction ns with
  | nil => rfl
  | cons n ns ih =>
    have hn := value?_symbol n (h n (.head _))
    have hns := ih fun m hm => h m (.tail _ hm)
    simp [List.mapM_cons, hn, hns]

/-- `UInt8.ofNat` of a number that is a byte modulo 256. -/
theorem ofNat_eq_of_mod {n : Nat} {b : UInt8} (h : n % 256 = b.toNat) : UInt8.ofNat n = b :=
  UInt8.toNat_inj.1 (by rw [UInt8.toNat_ofNat']; exact h)

/-- `decodeOnto` on the four values of three bytes. -/
theorem decodeOnto_group (read : List UInt8) (a b c : UInt8) (ns : List Nat) :
    let n := a.toNat * 65536 + b.toNat * 256 + c.toNat
    decodeOnto read (n / 262144 :: n / 4096 % 64 :: n / 64 % 64 :: n % 64 :: ns)
      = decodeOnto (c :: b :: a :: read) ns := by
  intro n
  have ha := a.toNat_lt
  have hb := b.toNat_lt
  have hc := c.toNat_lt
  have hwhole : n / 262144 * 262144 + n / 4096 % 64 * 4096 + n / 64 % 64 * 64 + n % 64 = n := by
    omega
  have hlow : UInt8.ofNat n = c := ofNat_eq_of_mod (by omega)
  have hmid : UInt8.ofNat (n / 256) = b := ofNat_eq_of_mod (by omega)
  have hhigh : UInt8.ofNat (n / 65536) = a := ofNat_eq_of_mod (by omega)
  rw [decodeOnto, hwhole, hlow, hmid, hhigh]

/-- `decodeOnto` reads back `sextets`. -/
theorem decodeOnto_sextets (read bytes : List UInt8) :
    decodeOnto read (sextets bytes) = some (read.reverse ++ bytes) := by
  induction bytes using sextets.induct generalizing read with
  | case1 a b c rest ih =>
    rw [sextets, decodeOnto_group, ih]
    simp
  | case2 a b =>
    have hwhole (n : Nat) : n / 4096 * 4096 + n / 64 % 64 * 64 + n % 64 = n := by omega
    have ha := a.toNat_lt
    have hb := b.toNat_lt
    rw [sextets]
    generalize hn : a.toNat * 1024 + b.toNat * 4 = n
    simp only [decodeOnto]
    have hzero : n % 4 = 0 := by omega
    have hlow : UInt8.ofNat (n / 4) = b := ofNat_eq_of_mod (by omega)
    have hhigh : UInt8.ofNat (n / 1024) = a := ofNat_eq_of_mod (by omega)
    rw [hwhole, if_pos hzero, hlow, hhigh]
    simp
  | case3 a =>
    have hwhole (n : Nat) : n / 64 * 64 + n % 64 = n := by omega
    have ha := a.toNat_lt
    rw [sextets]
    generalize hn : a.toNat * 16 = n
    simp only [decodeOnto]
    have hzero : n % 16 = 0 := by omega
    have hbyte : UInt8.ofNat (n / 16) = a := ofNat_eq_of_mod (by omega)
    rw [hwhole, if_pos hzero, hbyte]
    simp
  | case4 => simp [sextets, decodeOnto]

/-- `encode` is the symbols of the `sextets`. -/
theorem encode_eq (bytes : List UInt8) : encode bytes = (sextets bytes).map symbol :=
  encodeOnto_eq [] bytes

/-- `decode` of symbols is `decodeOnto` of their values, with as much padding behind as completes
the last group of four, or less. -/
theorem decode_symbols_padded {ns : List Nat} (hns : ∀ n ∈ ns, n < 64) {k : Nat}
    (hk : k ≤ (4 - ns.length % 4) % 4) :
    decode (ns.map symbol ++ List.replicate k '=') = decodeOnto [] ns := by
  have hall : ∀ c ∈ ns.map symbol, (c != '=') = true := by
    intro c hc
    obtain ⟨n, hn, rfl⟩ := List.mem_map.1 hc
    exact bne_iff_ne.2 (symbol_ne_pad n (hns n hn))
  have hpads : (List.replicate k '=').all (· == '=') = true :=
    List.all_eq_true.2 fun c hc => beq_iff_eq.2 (List.eq_of_mem_replicate hc)
  have htake : (List.replicate k '=').takeWhile (· != '=') = [] := by
    cases k <;> rfl
  have hdrop : (List.replicate k '=').dropWhile (· != '=') = List.replicate k '=' := by
    cases k <;> rfl
  -- Padding is there at all only if the last group is not complete.
  have hroom : ((List.replicate k '=').isEmpty
      || decide ((ns.map symbol).length % 4 + (List.replicate k '=').length ≤ 4)
        && (ns.map symbol).length % 4 != 0) = true := by
    rw [List.length_replicate, List.length_map]
    cases k with
    | zero => rfl
    | succ k =>
      have hincomplete : ns.length % 4 ≠ 0 := by omega
      have hfits : ns.length % 4 + (k + 1) ≤ 4 := by omega
      simp [hincomplete, hfits]
  simp only [decode, List.takeWhile_append_of_pos hall, List.dropWhile_append_of_pos hall, htake,
    hdrop, List.append_nil, hpads, hroom, Bool.and_self, if_true]
  rw [mapM_value?_symbol hns, Option.bind_some]

/-- `decode` reads back `encode`, with as much padding behind as completes the last group of four,
or less. -/
theorem decode_encode_padded (bytes : List UInt8) {k : Nat}
    (hk : k ≤ (4 - (encode bytes).length % 4) % 4) :
    decode (encode bytes ++ List.replicate k '=') = some bytes := by
  rw [encode_eq, List.length_map] at hk
  rw [encode_eq, decode_symbols_padded sextets_lt hk]
  exact decodeOnto_sextets [] bytes

/-- `decode` reads back `encode`. -/
theorem decode_encode (bytes : List UInt8) : decode (encode bytes) = some bytes := by
  have hplain := decode_encode_padded bytes (Nat.zero_le _)
  rwa [List.replicate_zero, List.append_nil] at hplain

/-- `symbol` is a letter, a digit, a hyphen or an underscore. -/
theorem alphabet : ∀ n < 64,
    (symbol n).isAlphanum = true ∨ symbol n = '-' ∨ symbol n = '_' := by
  decide

/-- `encode` consists of letters, digits, hyphens and underscores. -/
theorem alphabet_encode {bytes : List UInt8} :
    ∀ c ∈ encode bytes, c.isAlphanum = true ∨ c = '-' ∨ c = '_' := by
  intro c hc
  rw [encode_eq] at hc
  obtain ⟨n, hn, rfl⟩ := List.mem_map.1 hc
  exact alphabet n (sextets_lt n hn)

/-! ## Cut short -/

/-- `decodeOnto` of two last values is one byte, if it is defined. -/
theorem eq_of_decodeOnto_two {read out : List UInt8} {x y : Nat}
    (h : decodeOnto read [x, y] = some out) :
    out = read.reverse ++ [UInt8.ofNat ((x * 64 + y) / 16)] := by
  simp only [decodeOnto] at h
  split at h
  · cases h
    rw [List.reverse_cons]
  · cases h

/-- `decodeOnto` of three last values is two bytes, if it is defined. -/
theorem eq_of_decodeOnto_three {read out : List UInt8} {x y z : Nat}
    (h : decodeOnto read [x, y, z] = some out) :
    out = read.reverse ++ [UInt8.ofNat ((x * 4096 + y * 64 + z) / 1024),
      UInt8.ofNat ((x * 4096 + y * 64 + z) / 4)] := by
  simp only [decodeOnto] at h
  split at h
  · cases h
    rw [List.reverse_cons, List.reverse_cons, List.append_assoc, List.singleton_append]
  · cases h

/-- `decodeOnto` of a proper prefix of `sextets` is a proper prefix of the bytes, if it is
defined. -/
theorem decodeOnto_take {read out bytes : List UInt8} {m : Nat} (hm : m < (sextets bytes).length)
    (h : decodeOnto read ((sextets bytes).take m) = some out) :
    ∃ k < bytes.length, out = read.reverse ++ bytes.take k := by
  induction bytes using sextets.induct generalizing read m with
  | case1 a b c rest ih =>
    have ha := a.toNat_lt
    have hb := b.toNat_lt
    have hc := c.toNat_lt
    rw [sextets] at hm h
    match m with
    | 0 =>
      cases h
      exact ⟨0, by simp, by simp⟩
    | 1 => cases h
    | 2 =>
      rw [eq_of_decodeOnto_two h, ofNat_eq_of_mod (b := a) (by omega)]
      exact ⟨1, by simp, rfl⟩
    | 3 =>
      rw [eq_of_decodeOnto_three h, ofNat_eq_of_mod (b := a) (by omega),
        ofNat_eq_of_mod (b := b) (by omega)]
      exact ⟨2, by simp, rfl⟩
    | m + 4 =>
      simp only [List.take_succ_cons] at h
      rw [decodeOnto_group] at h
      obtain ⟨k, hk, rfl⟩ := ih (by simpa using hm) h
      exact ⟨k + 3, by simpa using hk, by simp⟩
  | case2 a b =>
    have ha := a.toNat_lt
    have hb := b.toNat_lt
    rw [sextets] at hm h
    match m with
    | 0 =>
      cases h
      exact ⟨0, by simp, by simp⟩
    | 1 => cases h
    | 2 =>
      rw [eq_of_decodeOnto_two h, ofNat_eq_of_mod (b := a) (by omega)]
      exact ⟨1, by simp, rfl⟩
    | m + 3 =>
      simp only [List.length_cons, List.length_nil] at hm
      omega
  | case3 a =>
    rw [sextets] at hm h
    match m with
    | 0 =>
      cases h
      exact ⟨0, by simp, by simp⟩
    | 1 => cases h
    | m + 2 =>
      simp only [List.length_cons, List.length_nil] at hm
      omega
  | case4 => simp [sextets] at hm

/-- `decode` of a proper prefix of `encode` is a proper prefix of the bytes, if it is defined. -/
theorem decode_cut {bytes read : List UInt8} {front back : List Char}
    (hcut : front ++ back = encode bytes) (hback : back ≠ []) (h : decode front = some read) :
    ∃ rest ≠ [], read ++ rest = bytes := by
  rw [encode_eq] at hcut
  have hlength : front.length < (sextets bytes).length := by
    have hboth := congrArg List.length hcut
    rw [List.length_append, List.length_map] at hboth
    have hpos := List.length_pos_iff.2 hback
    omega
  have hfront : front = ((sextets bytes).take front.length).map symbol := by
    rw [List.map_take, ← hcut, List.take_left]
  have hvalues : ∀ n ∈ (sextets bytes).take front.length, n < 64 :=
    fun n hn => sextets_lt n (List.mem_of_mem_take hn)
  have hplain := decode_symbols_padded hvalues (Nat.zero_le _)
  rw [List.replicate_zero, List.append_nil, ← hfront, h] at hplain
  obtain ⟨k, hk, hread⟩ := decodeOnto_take hlength hplain.symm
  refine ⟨bytes.drop k, ?_, ?_⟩
  · rw [ne_eq, List.drop_eq_nil_iff]
    omega
  · rw [hread, List.reverse_nil, List.nil_append, List.take_append_drop]

/-! ## Lengths -/

/-- Every letter and every digit is the `symbol` of a value. -/
theorem exists_symbol {c : Char} (hc : c.isAlphanum = true) : ∃ n < 64, symbol n = c := by
  have htable : ∀ n < 128, (Char.ofNat n).isAlphanum = true →
      ∃ m < 64, symbol m = Char.ofNat n := by decide +kernel
  have hsymbol := htable c.toNat (Text.toNat_lt_of_isAlphanum hc)
  rw [Char.ofNat_toNat] at hsymbol
  exact hsymbol hc

/-- `exists_symbol` along a list. -/
theorem exists_map_symbol {cs : List Char} (hcs : ∀ c ∈ cs, c.isAlphanum = true) :
    ∃ ns : List Nat, (∀ n ∈ ns, n < 64) ∧ ns.map symbol = cs := by
  induction cs with
  | nil => exact ⟨[], nofun, rfl⟩
  | cons c cs ih =>
    obtain ⟨hc, hrest⟩ := List.forall_mem_cons.1 hcs
    obtain ⟨n, hn, rfl⟩ := exists_symbol hc
    obtain ⟨ns, hns, rfl⟩ := ih hrest
    exact ⟨n :: ns, List.forall_mem_cons.2 ⟨hn, hns⟩, rfl⟩

/-- `decodeOnto` is defined on whole groups of four. -/
theorem exists_decodeOnto (read : List UInt8) {ns : List Nat} (h : ns.length % 4 = 0) :
    ∃ out, decodeOnto read ns = some out := by
  fun_induction decodeOnto read ns with
  | case1 read a b c d rest n ih =>
    simp only [List.length_cons] at h
    exact ih (by omega)
  | case7 read => exact ⟨_, rfl⟩
  | _ => simp at h

/-- `decode` is defined on letters and digits in whole groups of four. -/
theorem exists_decode {cs : List Char} (hcs : ∀ c ∈ cs, c.isAlphanum = true)
    (hlength : cs.length % 4 = 0) : ∃ bytes, decode cs = some bytes := by
  obtain ⟨ns, hns, rfl⟩ := exists_map_symbol hcs
  rw [List.length_map] at hlength
  obtain ⟨bytes, hbytes⟩ := exists_decodeOnto [] hlength
  have hplain := decode_symbols_padded hns (Nat.zero_le _)
  rw [List.replicate_zero, List.append_nil, hbytes] at hplain
  exact ⟨bytes, hplain⟩

/-- `decodeOnto` makes three bytes at most of four values. -/
theorem length_of_decodeOnto {read out : List UInt8} {ns : List Nat}
    (h : decodeOnto read ns = some out) : 4 * out.length ≤ 4 * read.length + 3 * ns.length := by
  fun_induction decodeOnto read ns with
  | case1 read a b c d rest n ih =>
    have hrest := ih h
    simp only [List.length_cons] at hrest ⊢
    omega
  | case2 read a b c n hn | case4 read a b n hn | case7 =>
    cases h
    simp only [List.length_reverse, List.length_cons, List.length_nil]
    omega
  | case3 | case5 | case6 => cases h

/-- `value?` along a list keeps the length. -/
theorem length_of_mapM_value? {cs : List Char} {ns : List Nat} (h : cs.mapM value? = some ns) :
    ns.length = cs.length := by
  induction cs generalizing ns with
  | nil =>
    cases h
    rfl
  | cons c cs ih =>
    rw [List.mapM_cons] at h
    obtain ⟨n, -, h⟩ := Option.bind_eq_some_iff.1 h
    obtain ⟨ns', hns, h⟩ := Option.bind_eq_some_iff.1 h
    cases h
    rw [List.length_cons, ih hns, List.length_cons]

/-- `decode` makes three bytes at most of four characters. -/
theorem length_of_decode {cs : List Char} {bytes : List UInt8} (h : decode cs = some bytes) :
    4 * bytes.length ≤ 3 * cs.length := by
  simp only [decode] at h
  split at h
  · obtain ⟨ns, hns, hbytes⟩ := Option.bind_eq_some_iff.1 h
    have hread := length_of_decodeOnto hbytes
    rw [length_of_mapM_value? hns, List.length_nil] at hread
    have htaken := (List.takeWhile_prefix (l := cs) (· != '=')).length_le
    omega
  · cases h

end NotePager.Encoding.Base64Url
