namespace SignalControl.Text.Utf8

/-! Reading octets as UTF-8. The decoder is a machine over single octets: it
yields a character for every well-formed sequence and `none` for every maximal
ill-formed part, so a strict reader and a lossy reader share it. -/

structure Pending where
  value : Nat
  missing : Nat
  low : Nat := 0x80
  high : Nat := 0xBF

inductive Start
  | complete (character : Char)
  | pending (sequence : Pending)
  | illFormed

def start (octet : Nat) : Start :=
  -- The bounds on the second octet exclude overlong forms, surrogates and code
  -- points above U+10FFFF.
  if octet < 0x80 then .complete (Char.ofNat octet)
  else if octet < 0xC2 then .illFormed
  else if octet < 0xE0 then .pending { value := octet - 0xC0, missing := 1 }
  else if octet = 0xE0 then .pending { value := 0, missing := 2, low := 0xA0 }
  else if octet = 0xED then .pending { value := 0xD, missing := 2, high := 0x9F }
  else if octet < 0xF0 then .pending { value := octet - 0xE0, missing := 2 }
  else if octet = 0xF0 then .pending { value := 0, missing := 3, low := 0x90 }
  else if octet < 0xF4 then .pending { value := octet - 0xF0, missing := 3 }
  else if octet = 0xF4 then .pending { value := 4, missing := 3, high := 0x8F }
  else .illFormed

def Pending.accepts (sequence : Pending) (octet : Nat) : Bool :=
  sequence.low ≤ octet && octet ≤ sequence.high

def Pending.extend (sequence : Pending) (octet : Nat) : Start :=
  let value := 64 * sequence.value + (octet - 0x80)
  if sequence.missing = 1 then .complete (Char.ofNat value)
  else .pending { value := value, missing := sequence.missing - 1 }

/-- An octet that cannot continue the open sequence ends it as ill-formed and
is read again as the start of the next one. -/
def decodeFrom : Option Pending → List UInt8 → List (Option Char)
  | none, [] => []
  | some _, [] => [none]
  | current, octet :: rest =>
      let broken := current.any fun sequence => !sequence.accepts octet.toNat
      let next :=
        match current with
        | some sequence =>
            if sequence.accepts octet.toNat then sequence.extend octet.toNat
            else start octet.toNat
        | none => start octet.toNat
      let decoded :=
        match next with
        | .complete character => some character :: decodeFrom none rest
        | .pending sequence => decodeFrom (some sequence) rest
        | .illFormed => none :: decodeFrom none rest
      if broken then none :: decoded else decoded

def decode (octets : List UInt8) : List (Option Char) :=
  decodeFrom none octets

def decodeLossy (octets : List UInt8) : String :=
  String.ofList ((decode octets).map fun decoded => decoded.getD '\ufffd')

def decodeStrict? (octets : List UInt8) : Option String :=
  ((decode octets).mapM id).map String.ofList

def encode (text : List Char) : List UInt8 :=
  text.flatMap String.utf8EncodeChar

example : decodeLossy [0xE2, 0x82, 0x61] = "\ufffda" := by decide
example : decodeLossy [0xE0, 0x80, 0x9F] = "\ufffd\ufffd\ufffd" := by decide
example : decodeStrict? [0xF0, 0x9F, 0x98, 0x80] = some "😀" := by decide
example : decodeStrict? [0xFF] = none := by decide

end SignalControl.Text.Utf8
