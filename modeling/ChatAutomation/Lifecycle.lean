import ChatAutomation.Store

/-!
# Starting and stopping

The application makes the indexes of its store, runs, and closes its connections. A store that is
out of reach does not keep it from running.
-/
namespace ChatAutomation

/-- What happens between start and end. -/
inductive LifeStep where
  | createIndex (i : Index)
  | running
  | closeDelivery
  | closeFetch
  | closeStore
  deriving DecidableEq, Repr

namespace Store

/-- The indexes that are asked for; the first failure ends it. -/
def createIndexes (s : Store) : List Index :=
  if s.failure.isSome then indexes.take 1 else indexes

/-- From the start of the application to its end. -/
def life (s : Store) : List LifeStep :=
  s.createIndexes.map .createIndex ++ [.running, .closeDelivery, .closeFetch, .closeStore]

end Store
end ChatAutomation
