import CatalogIntake.Sql.Script

namespace CatalogIntake.Sql

def occursIn (part : List Char) : List Char → Bool
  | [] => part.isEmpty
  | c :: rest => part.isPrefixOf (c :: rest) || occursIn part rest

structure Rule where
  part : String
  /-- How often it may still be used; without a number, for ever. -/
  uses : Option Nat
  answer : Option Answer
  /-- The program is interrupted when the rule is used. -/
  interrupts : Bool

namespace Rule

def applies (rule : Rule) (text : String) : Bool :=
  rule.uses != some 0 && occursIn rule.part.toList text.toList

def used (rule : Rule) : Rule := { rule with uses := rule.uses.map (· - 1) }

end Rule

inductive Peer
  /-- The connections have been given up. -/
  | closed
  | scripted (rules : List Rule) (log : List Statement) (interrupted : Bool)

namespace Peer

def takeRule (text : String) : List Rule → Option (Rule × List Rule)
  | [] => none
  | rule :: rest =>
    if rule.applies text then some (rule, rule.used :: rest)
    else (takeRule text rest).map fun (found, rules) => (found, rule :: rules)

/-- Without a rule a statement affects one row, counting gives zero, and other queries no rows. -/
def defaultReply : Statement → Reply
  | .countErrors _ | .countMessages _ => .rows [[.integer 0]]
  | .selectJob _ | .selectErrors _ _ _ | .addProgress _ _ _ | .claimMessage _ _
  | .selectDirtyVersion | .selectApplied => .rows []
  | _ => .affected 1

def answer (s : Statement) : Peer → Answer × Peer
  | closed => (.error .closedPool, closed)
  | scripted rules log interrupted =>
    let count := s.params.length
    if count > Statement.valueLimit then
      (.error (.tooManyValues count), scripted rules log interrupted)
    else
      let log := if s.isLogged then s :: log else log
      match takeRule s.text rules with
      | none => (.ok (defaultReply s), scripted rules log interrupted)
      | some (rule, rules) =>
        (rule.answer.getD (.ok (defaultReply s)),
          scripted rules log (interrupted || rule.interrupts))

def takeLog : Peer → List Statement × Peer
  | closed => ([], closed)
  | scripted rules log interrupted => (log.reverse, scripted rules [] interrupted)

def isInterrupted : Peer → Bool
  | closed => false
  | scripted _ _ interrupted => interrupted

end Peer

end CatalogIntake.Sql
