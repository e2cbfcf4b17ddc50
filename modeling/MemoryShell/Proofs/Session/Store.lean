import MemoryShell.Proofs.Text.Reading
import MemoryShell.Session.Store

set_option autoImplicit false

namespace MemoryShell.Session

theorem key_injective : Function.Injective key := by
  intro a b h
  simpa only [key, List.append_assoc, List.append_cancel_left_eq,
    List.append_cancel_right_eq] using h

namespace Store

def text? (store : Store) (session : Text) : Option String :=
  OrderedMap.find? store.entries (key session)

theorem run_load (session : Text) (store : Store) :
    (load session).run store =
      (store.text? session, { store with calls := store.calls ++ [.get (key session)] }) := by
  -- what a client gives back as octets is read as the text that was stored
  have hstring : ∀ text, (if store.inOctets then Payload.octets (Utf8.encode text)
      else .text text).string = text := by
    intro text
    cases store.inOctets with
    | false => rfl
    | true => exact Utf8.decode_encode text
  show (((OrderedMap.find? store.entries (key session)).map fun text =>
    if store.inOctets then Payload.octets (Utf8.encode text) else .text text).map
      Payload.string, _) = _
  rw [Option.map_map]
  simp only [Function.comp_def, hstring, Option.map_id', text?]

theorem run_save_of_ok {shell : Shell} {text : String}
    (h : Snapshot.write shell.volume = .ok text) (session : Text) (store : Store) :
    (save session shell).run store =
      (.ok text, { store with
        entries := OrderedMap.insert store.entries (key session) text
        calls := store.calls ++ [.put (key session) lifetime text] }) := by
  unfold save
  rw [h]
  rfl

theorem run_save_of_error {shell : Shell} {e : Volume.Error}
    (h : Snapshot.write shell.volume = .error e) (session : Text) (store : Store) :
    (save session shell).run store = (.error (.volume e), store) := by
  unfold save
  rw [h]
  rfl

theorem run_reset (session : Text) (store : Store) :
    (reset session).run store =
      ((), { store with
        entries := OrderedMap.erase store.entries (key session)
        calls := store.calls ++ [.delete (key session)] }) := rfl

end Store

end MemoryShell.Session
