import FlashSale.Store.Etcd.Message
import FlashSale.Text.Blank

/-! # The stream of an etcd watch

    The body of a watch has one frame per line.  Its messages are the changes
    of all frames before the first line that cannot be used, and then one
    error. -/

namespace FlashSale.Etcd

open Text

/-- Drops one carriage return at the end of a line. -/
def dropReturn (line : Bytes) : Bytes :=
  if line.getLast? = some 0x0D then line.dropLast else line

/-- The lines of a body, which end at its line feeds.  What follows the last
    line feed counts as a line only if the body is complete. -/
def linesOf (complete : Bool) (body : Bytes) : List Bytes :=
  let pieces := body.splitOn 0x0A
  let last := pieces.getLast?.getD []
  pieces.dropLast.map dropReturn ++ if complete && !last.isEmpty then [last] else []

/-- The changes of one line; a blank line has none. -/
def readLine (endpoint : String) (line : Bytes) : Except StoreError (List Change) :=
  match utf8Decode? line with
  | none => .error (.broken endpoint)
  | some text =>
    if (trim text).isEmpty then .ok []
    else match (Json.parse? line).bind Frame.ofJson? with
      | none => .error (.protocol endpoint .unreadable)
      | some frame => frame.changes endpoint

/-- The messages of some lines, the last one being `ending` if all lines can be
    used. -/
def messagesOfLines (endpoint : String) (ending : StoreError) : List Bytes → List Message
  | [] => [.error ending]
  | line :: rest =>
    match readLine endpoint line with
    | .error e => [.error e]
    | .ok changes => changes.map .ok ++ messagesOfLines endpoint ending rest

/-- The messages of a body.  A complete body ends by being closed, any other by
    being broken. -/
def messagesOf (endpoint : String) (complete : Bool) (body : Bytes) : List Message :=
  messagesOfLines endpoint (if complete then .closed else .broken endpoint)
    (linesOf complete body)

end FlashSale.Etcd
