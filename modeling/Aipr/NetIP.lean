import Aipr.ByteOrder

namespace Aipr.Syncer

-- strings.TrimSpace and net.ParseIP, over the characters of the string. Every
-- character the parsers accept is ASCII, so bytes and characters agree there.
def isSpace (c : Char) : Bool :=
  c ∈ ['\t','\n','\x0b','\x0c','\r',' ','\x85','\xa0','\u1680','\u2028','\u2029','\u202f','\u205f','\u3000'] ||
    ('\u2000' ≤ c && c ≤ '\u200a')

def trimSpace (s : List Char) : List Char := ((s.dropWhile isSpace).reverse.dropWhile isSpace).reverse

def parseIPv4Fields (fields : List UInt8) (val digLen : Nat) (prev : Option Char) : List Char → Option (List UInt8)
  | [] => if fields.length < 3 then none else some (fields ++ [UInt8.ofNat val])
  | c :: rest =>
    if '0' ≤ c ∧ c ≤ '9' then
      if digLen = 1 ∧ val = 0 then none
      else if val * 10 + (c.toNat - 48) > 255 then none
      else parseIPv4Fields fields (val * 10 + (c.toNat - 48)) (digLen + 1) (some c) rest
    else if c = '.' then
      if prev = none ∨ rest = [] ∨ prev = some '.' then none
      else if fields.length = 3 then none
      else parseIPv4Fields (fields ++ [UInt8.ofNat val]) 0 0 (some c) rest
    else none

def hexDigit (c : Char) : Option Nat :=
  if '0' ≤ c ∧ c ≤ '9' then some (c.toNat - 48)
  else if 'a' ≤ c ∧ c ≤ 'f' then some (c.toNat - 97 + 10)
  else if 'A' ≤ c ∧ c ≤ 'F' then some (c.toNat - 65 + 10)
  else none

def parseHexGroup (off acc : Nat) : List Char → Option (Nat × Nat × List Char)
  | [] => some (off,acc,[])
  | c :: rest =>
    match hexDigit c with
    | none => some (off,acc,c :: rest)
    | some d =>
      if off > 3 then none
      else if acc * 16 + d > 65535 then none
      else parseHexGroup (off + 1) (acc * 16 + d) rest

def parseIPv6Groups : Nat → List UInt8 → Option Nat → List Char → Option (List UInt8 × Option Nat × List Char)
  | 0,ip,ellipsis,s => some (ip,ellipsis,s)
  | groups + 1,ip,ellipsis,s =>
    match parseHexGroup 0 0 s with
    | none => none
    | some (off,acc,rest) =>
      if off = 0 then none
      else if rest.head? = some '.' then
        if ellipsis = none ∧ ip.length ≠ 12 then none
        else if ip.length + 4 > 16 then none
        else (parseIPv4Fields [] 0 0 none s).map fun four => (ip ++ four,ellipsis,[])
      else
        let ip := ip ++ [UInt8.ofNat (acc / 256),UInt8.ofNat acc]
        match rest with
        | [] => some (ip,ellipsis,[])
        | [':'] => none
        | ':' :: ':' :: after =>
          if ellipsis.isSome then none
          else if after = [] then some (ip,some ip.length,[])
          else parseIPv6Groups groups ip (some ip.length) after
        | ':' :: after => parseIPv6Groups groups ip ellipsis after
        | _ => none

def parseIPv6 (s : List Char) : Option (List UInt8) :=
  let loop :=
    match s with
    | [':',':'] => some ([],some 0,[])
    | ':' :: ':' :: after => parseIPv6Groups 8 [] (some 0) after
    | _ => parseIPv6Groups 8 [] none s
  match loop with
  | none => none
  | some (ip,ellipsis,rest) =>
    if rest ≠ [] then none
    else
      match ellipsis with
      | none => if ip.length < 16 then none else some ip
      | some at_ =>
        if ip.length < 16 then some (ip.take at_ ++ List.replicate (16 - ip.length) 0 ++ ip.drop at_) else none

def v4InV6Prefix : List UInt8 := [0,0,0,0,0,0,0,0,0,0,0xff,0xff]

-- The sixteen bytes of the address; a zone, or an error, gives nil.
def parseIP (s : List Char) : Option (List UInt8) :=
  if '%' ∈ s then none
  else
    match s.find? fun c => c = '.' || c = ':' with
    | some '.' => (parseIPv4Fields [] 0 0 none s).map (v4InV6Prefix ++ ·)
    | some _ => parseIPv6 s
    | none => none

def to4 (ip : List UInt8) : Option Be32 :=
  if ip.take 12 = v4InV6Prefix then
    match ip.drop 12 with
    | [b0,b1,b2,b3] => some ⟨b0,b1,b2,b3⟩
    | _ => none
  else none

def parseIPv4 (value : String) : Option Be32 := (parseIP (trimSpace value.toList)).bind to4

def digit (d : Nat) : Char := Char.ofNat (48 + d)

def octet (b : UInt8) : List Char :=
  let n := b.toNat
  if n < 10 then [digit n]
  else if n < 100 then [digit (n / 10),digit (n % 10)]
  else [digit (n / 100),digit (n / 10 % 10),digit (n % 10)]

def dotted (x : Be32) : List Char := octet x.b0 ++ '.' :: (octet x.b1 ++ '.' :: (octet x.b2 ++ '.' :: octet x.b3))

theorem digit_read (fields : List UInt8) (val digLen : Nat) (prev : Option Char) (rest : List Char) {d : Nat} (low : d < 10) :
    parseIPv4Fields fields val digLen prev (digit d :: rest) =
      if digLen = 1 ∧ val = 0 then none
      else if val * 10 + d > 255 then none
      else parseIPv4Fields fields (val * 10 + d) (digLen + 1) (some (digit d)) rest := by
  have range : ∀ d : Fin 10, ('0' ≤ digit d ∧ digit d ≤ '9') ∧ (digit d).toNat - 48 = d := by decide
  obtain ⟨inside,value⟩ := range ⟨d,low⟩
  rw [parseIPv4Fields,if_pos inside,value]

theorem octet_read (fields : List UInt8) (prev : Option Char) (rest : List Char) (b : UInt8) :
    ∃ digLen last, last ≠ '.' ∧ parseIPv4Fields fields 0 0 prev (octet b ++ rest) =
      parseIPv4Fields fields b.toNat digLen (some last) rest := by
  have bound := b.toNat_lt
  have plain : ∀ d : Fin 10, digit d ≠ '.' := by decide
  unfold octet
  dsimp only
  split
  · rename_i one
    refine ⟨1,digit b.toNat,plain ⟨b.toNat,one⟩,?_⟩
    rw [List.singleton_append,digit_read _ _ _ _ _ one,if_neg (by omega),if_neg (by omega)]
    simp
  · split
    · rename_i several two
      refine ⟨2,digit (b.toNat % 10),plain ⟨_,Nat.mod_lt _ (by omega)⟩,?_⟩
      rw [List.cons_append,digit_read _ _ _ _ _ (by omega),if_neg (by omega),if_neg (by omega),
        List.singleton_append,digit_read _ _ _ _ _ (by omega),if_neg (by omega),if_neg (by omega)]
      congr 1
      omega
    · rename_i several three
      refine ⟨3,digit (b.toNat % 10),plain ⟨_,Nat.mod_lt _ (by omega)⟩,?_⟩
      rw [List.cons_append,digit_read _ _ _ _ _ (by omega),if_neg (by omega),if_neg (by omega),
        List.cons_append,digit_read _ _ _ _ _ (by omega),if_neg (by omega),if_neg (by omega),
        List.singleton_append,digit_read _ _ _ _ _ (by omega),if_neg (by omega),if_neg (by omega)]
      congr 1
      omega

theorem dot_read (fields : List UInt8) (val digLen : Nat) (last : Char) (rest : List Char) (plain : last ≠ '.')
    (more : rest ≠ []) (few : fields.length < 3) : parseIPv4Fields fields val digLen (some last) ('.' :: rest) =
      parseIPv4Fields (fields ++ [UInt8.ofNat val]) 0 0 (some '.') rest := by
  have outside : ¬ ('0' ≤ '.' ∧ '.' ≤ '9') := by decide
  have allowed : ¬ (some last = none ∨ rest = [] ∨ some last = some '.') := by
    rintro (impossible | empty | dot)
    · cases impossible
    · exact more empty
    · exact plain (Option.some.inj dot)
  rw [parseIPv4Fields,if_neg outside,if_pos rfl,if_neg allowed,if_neg (by omega)]

theorem dotted_read (x : Be32) : parseIPv4Fields [] 0 0 none (dotted x) = some [x.b0,x.b1,x.b2,x.b3] := by
  have filled : ∀ b : UInt8, octet b ≠ [] := by
    intro b
    unfold octet
    dsimp only
    split
    · exact List.cons_ne_nil _ _
    · split <;> exact List.cons_ne_nil _ _
  have back : ∀ b : UInt8, UInt8.ofNat b.toNat = b := fun b => UInt8.ofNat_toNat
  obtain ⟨_,_,plain0,read0⟩ := octet_read [] none ('.' :: (octet x.b1 ++ '.' :: (octet x.b2 ++ '.' :: octet x.b3))) x.b0
  obtain ⟨_,_,plain1,read1⟩ := octet_read [x.b0] (some '.') ('.' :: (octet x.b2 ++ '.' :: octet x.b3)) x.b1
  obtain ⟨_,_,plain2,read2⟩ := octet_read [x.b0,x.b1] (some '.') ('.' :: octet x.b3) x.b2
  obtain ⟨_,_,_,read3⟩ := octet_read [x.b0,x.b1,x.b2] (some '.') [] x.b3
  rw [dotted,read0,dot_read _ _ _ _ _ plain0 (by simp) (by simp),back,List.nil_append,read1,
    dot_read _ _ _ _ _ plain1 (by simp) (by simp),back,List.singleton_append,read2,
    dot_read _ _ _ _ _ plain2 (filled _) (by simp),back,List.cons_append,List.singleton_append,
    ← List.append_nil (octet x.b3),read3]
  simp [parseIPv4Fields,back]

theorem octet_digits (b : UInt8) {c : Char} (member : c ∈ octet b) : ∃ d : Fin 10, c = digit d := by
  have bound := b.toNat_lt
  unfold octet at member
  dsimp only at member
  split at member
  · rename_i one
    exact ⟨⟨b.toNat,one⟩,List.mem_singleton.mp member⟩
  · split at member
    · rcases List.mem_cons.mp member with rfl | last
      · exact ⟨⟨b.toNat / 10,by omega⟩,rfl⟩
      · exact ⟨⟨b.toNat % 10,by omega⟩,List.mem_singleton.mp last⟩
    · rcases List.mem_cons.mp member with rfl | later
      · exact ⟨⟨b.toNat / 100,by omega⟩,rfl⟩
      · rcases List.mem_cons.mp later with rfl | last
        · exact ⟨⟨b.toNat / 10 % 10,by omega⟩,rfl⟩
        · exact ⟨⟨b.toNat % 10,by omega⟩,List.mem_singleton.mp last⟩

theorem dotted_plain (x : Be32) {c : Char} (member : c ∈ dotted x) : isSpace c = false ∧ c ≠ '%' ∧ c ≠ ':' := by
  have digits : ∀ d : Fin 10, isSpace (digit d) = false ∧ digit d ≠ '%' ∧ digit d ≠ ':' := by decide
  have dot : isSpace '.' = false ∧ '.' ≠ '%' ∧ '.' ≠ ':' := by decide
  have split : (∃ b, c ∈ octet b) ∨ c = '.' := by
    simp only [dotted,List.mem_append,List.mem_cons] at member
    rcases member with own | rfl | own | rfl | own | rfl | own
    · exact .inl ⟨_,own⟩
    · exact .inr rfl
    · exact .inl ⟨_,own⟩
    · exact .inr rfl
    · exact .inl ⟨_,own⟩
    · exact .inr rfl
    · exact .inl ⟨_,own⟩
  rcases split with ⟨b,own⟩ | rfl
  · obtain ⟨d,rfl⟩ := octet_digits b own
    exact digits d
  · exact dot

theorem trimSpace_plain {s : List Char} (plain : ∀ c ∈ s, isSpace c = false) : trimSpace s = s := by
  have keeps : ∀ t : List Char, (∀ c ∈ t, isSpace c = false) → t.dropWhile isSpace = t := by
    intro t plain
    cases t with
    | nil => rfl
    | cons c rest => exact List.dropWhile_cons_of_neg (by rw [plain c List.mem_cons_self]; exact Bool.false_ne_true)
  rw [trimSpace,keeps s plain,keeps s.reverse fun c member => plain c (List.mem_reverse.mp member),List.reverse_reverse]

theorem parseIPv4_dotted (x : Be32) : parseIPv4 (String.ofList (dotted x)) = some x := by
  have unzoned : '%' ∉ dotted x := fun member => (dotted_plain x member).2.1 rfl
  have dot : '.' ∈ dotted x := by simp [dotted]
  have first : (dotted x).find? (fun c => c = '.' || c = ':') = some '.' := by
    cases found : (dotted x).find? fun c => c = '.' || c = ':' with
    | none =>
      have missing := List.find?_eq_none.mp found '.' dot
      exact absurd rfl missing
    | some c =>
      have kind := List.find?_some found
      have member := List.mem_of_find?_eq_some found
      simp only [Bool.or_eq_true,decide_eq_true_eq] at kind
      rcases kind with rfl | colon
      · rfl
      · exact absurd colon (dotted_plain x member).2.2
  rw [parseIPv4,String.toList_ofList,trimSpace_plain fun c member => (dotted_plain x member).1,parseIP,if_neg unzoned,first]
  simp [dotted_read,to4,v4InV6Prefix]

-- No text that is an address has a space in it, so trimming takes nothing away.
def Solid (s : List Char) : Prop := ∀ c ∈ s, isSpace c = false

theorem solid_cons {c : Char} {s : List Char} (first : isSpace c = false) (rest : Solid s) : Solid (c :: s) := by
  intro d member
  rcases List.mem_cons.mp member with rfl | later
  · exact first
  · exact rest d later

theorem isSpace_graphic {c : Char} (low : 33 ≤ c.toNat) (high : c.toNat ≤ 126) : isSpace c = false := by
  have listed : c ∉ ['\t','\n','\x0b','\x0c','\r',' ','\x85','\xa0','\u1680','\u2028','\u2029','\u202f','\u205f','\u3000'] := by
    intro member
    have outside : (['\t','\n','\x0b','\x0c','\r',' ','\x85','\xa0','\u1680','\u2028','\u2029','\u202f','\u205f','\u3000'].all
        fun d => d.toNat < 33 || 126 < d.toNat) = true := by decide
    have own := List.all_eq_true.mp outside c member
    rw [Bool.or_eq_true,decide_eq_true_eq,decide_eq_true_eq] at own
    omega
  have below : ¬ '\u2000' ≤ c := by
    intro above
    have large : 8192 ≤ c.toNat := above
    omega
  rw [isSpace,decide_eq_false listed,decide_eq_false below]
  rfl

theorem isSpace_between {c low high : Char} (inside : low ≤ c ∧ c ≤ high) (first : 33 ≤ low.toNat) (last : high.toNat ≤ 126) :
    isSpace c = false := by
  have above : low.toNat ≤ c.toNat := inside.1
  have below : c.toNat ≤ high.toNat := inside.2
  exact isSpace_graphic (by omega) (by omega)

theorem hexDigit_solid {c : Char} {d : Nat} (digit : hexDigit c = some d) : isSpace c = false := by
  unfold hexDigit at digit
  split at digit
  · exact isSpace_between ‹_› (by decide) (by decide)
  · split at digit
    · exact isSpace_between ‹_› (by decide) (by decide)
    · split at digit
      · exact isSpace_between ‹_› (by decide) (by decide)
      · cases digit

theorem parseIPv4Fields_solid {fields out : List UInt8} {val digLen : Nat} {prev : Option Char} {s : List Char}
    (parsed : parseIPv4Fields fields val digLen prev s = some out) : Solid s := by
  induction s generalizing fields val digLen prev with
  | nil => exact fun _ member => absurd member List.not_mem_nil
  | cons c rest ih =>
    rw [parseIPv4Fields] at parsed
    split at parsed
    · rename_i digit
      split at parsed
      · cases parsed
      · split at parsed
        · cases parsed
        · exact solid_cons (isSpace_between digit (by decide) (by decide)) (ih parsed)
    · split at parsed
      · rename_i dot
        split at parsed
        · cases parsed
        · split at parsed
          · cases parsed
          · exact solid_cons (dot ▸ by decide) (ih parsed)
      · cases parsed

theorem parseHexGroup_solid {off off' acc acc' : Nat} {s rest : List Char}
    (parsed : parseHexGroup off acc s = some (off',acc',rest)) (after : Solid rest) : Solid s := by
  induction s generalizing off acc with
  | nil => exact fun _ member => absurd member List.not_mem_nil
  | cons c tail ih =>
    rw [parseHexGroup] at parsed
    split at parsed
    · cases parsed
      exact after
    · rename_i d digit
      split at parsed
      · cases parsed
      · split at parsed
        · cases parsed
        · exact solid_cons (hexDigit_solid digit) (ih parsed)

theorem parseIPv6Groups_solid {groups : Nat} {ip ip' : List UInt8} {ellipsis ellipsis' : Option Nat} {s rest : List Char}
    (parsed : parseIPv6Groups groups ip ellipsis s = some (ip',ellipsis',rest)) (after : Solid rest) : Solid s := by
  have colon : isSpace ':' = false := by decide
  have empty : Solid [] := fun _ member => absurd member List.not_mem_nil
  induction groups generalizing ip ellipsis s with
  | zero =>
    cases parsed
    exact after
  | succ groups ih =>
    rw [parseIPv6Groups] at parsed
    split at parsed
    · cases parsed
    · rename_i off acc left group
      split at parsed
      · cases parsed
      · split at parsed
        · split at parsed
          · cases parsed
          · split at parsed
            · cases parsed
            · obtain ⟨four,read,_⟩ := Option.map_eq_some_iff.mp parsed
              exact parseIPv4Fields_solid read
        · refine parseHexGroup_solid group ?_
          dsimp only at parsed
          split at parsed
          · exact empty
          · cases parsed
          · split at parsed
            · cases parsed
            · split at parsed
              · rename_i ended
                rw [ended]
                exact solid_cons colon (solid_cons colon empty)
              · exact solid_cons colon (solid_cons colon (ih parsed))
          · exact solid_cons colon (ih parsed)
          · cases parsed

theorem parseIPv6_solid {s : List Char} {out : List UInt8} (parsed : parseIPv6 s = some out) : Solid s := by
  have colon : isSpace ':' = false := by decide
  have empty : Solid [] := fun _ member => absurd member List.not_mem_nil
  unfold parseIPv6 at parsed
  dsimp only at parsed
  split at parsed
  · cases parsed
  · rename_i ip ellipsis rest groups
    split at parsed
    · cases parsed
    · rename_i ended
      have after : Solid rest := Decidable.not_not.mp ended ▸ empty
      split at groups
      · exact solid_cons colon (solid_cons colon empty)
      · exact solid_cons colon (solid_cons colon (parseIPv6Groups_solid groups after))
      · exact parseIPv6Groups_solid groups after

theorem parseIP_solid {s : List Char} {ip : List UInt8} (parsed : parseIP s = some ip) : Solid s := by
  unfold parseIP at parsed
  split at parsed
  · cases parsed
  · split at parsed
    · obtain ⟨four,read,_⟩ := Option.map_eq_some_iff.mp parsed
      exact parseIPv4Fields_solid read
    · exact parseIPv6_solid parsed
    · cases parsed

theorem parseIPv4_untrimmed {value : String} (valid : ((parseIP value.toList).bind to4).isSome = true) :
    parseIPv4 value ≠ none := by
  obtain ⟨ip,read⟩ := Option.isSome_iff_exists.mp valid
  obtain ⟨bytes,parsed,_⟩ := Option.bind_eq_some_iff.mp read
  rw [parseIPv4,trimSpace_plain (parseIP_solid parsed),read]
  exact Option.some_ne_none ip

end Aipr.Syncer
