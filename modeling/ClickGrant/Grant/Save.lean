import ClickGrant.Grant.Ledger

/-!
# Save grants

Each verified click on a save component adds one grant with a serial of its own and a timer that
takes this one back. An identity may save as long as one of its grants is left.
-/
set_option autoImplicit false

namespace ClickGrant.GrantState

/-- One more save grant, with its timer. The result is its serial. -/
def grantSave (d : GrantDelays) (token : Token) (s : GrantState) : UInt64 × GrantState :=
  let serial := s.ledger.nextSerial
  let record := s.ledger.saves.getD token { count := 0, serials := [] }
  let record := { count := record.count + 1, serials := record.serials ++ [serial] }
  (serial,
   { s with
     ledger := { s.ledger with saves := s.ledger.saves.set token record, nextSerial := serial + 1 }
     timers := s.timers.schedule (saveKey token serial) (saturatingAdd s.now d.save)
       (.saveExpired token serial) })

/-- Takes one save grant back, with its timer. The result says whether none is left. -/
def revokeSave (token : Token) (serial : UInt64) (s : GrantState) : Bool × GrantState :=
  match s.ledger.saves.get? token with
  | none => (true, s)
  | some record =>
    if record.serials.contains serial then
      let count := record.count - 1
      let saves :=
        if count = 0 then s.ledger.saves.erase token
        else s.ledger.saves.set token { count, serials := record.serials.erase serial }
      (count = 0,
       { s with ledger := { s.ledger with saves }, timers := s.timers.remove (saveKey token serial) })
    else (record.count = 0, s)

/-- Takes every save grant of an identity back. -/
def revokeSaves (token : Token) (s : GrantState) : GrantState :=
  match s.ledger.saves.get? token with
  | none => s
  | some record =>
    { s with
      ledger := { s.ledger with saves := s.ledger.saves.erase token }
      timers := record.serials.foldl (fun q serial => q.remove (saveKey token serial)) s.timers }

end ClickGrant.GrantState
