import ShellLaunch.Resolve

/-!
# Resolvers

A resolver is made for one command line. Using it a second time is a fault of the
calling program and not of the user, so it is reported apart from diagnostics. A copy of
a resolver is used if and only if the resolver was used when it was copied.

A pool of resolvers with the steps that can be taken on it stands for a program that
holds several of them.
-/

namespace ShellLaunch

/-- Turns one command line into a launch configuration. -/
structure Resolver where
  platform : Platform
  stdin : StdinState
  used : Bool
  deriving DecidableEq

/-- A fault of the calling program. -/
inductive ResolverFault where
  | alreadyResolved
  deriving DecidableEq

def ResolverFault.message : ResolverFault → String
  | alreadyResolved =>
    "the command line resolver has already been used; create a new resolver per argument vector"

namespace Resolver

/-- A resolver for a platform, which finds out about standard input by itself. -/
def new (platform : Platform) : Resolver := ⟨platform, .detect, false⟩

/-- A resolver for the platform this program is built for. -/
def default : Resolver := new .current

def withStdin (resolver : Resolver) (stdin : StdinState) : Resolver :=
  { resolver with stdin }

def host (resolver : Resolver) (machine : Machine) : Host :=
  ⟨resolver.platform, resolver.stdin, machine⟩

/-- Resolves a command line, if the resolver is not used, and marks it as used. -/
def resolve (resolver : Resolver) (machine : Machine) (args : List String) :
    Except ResolverFault LaunchConfig × Resolver :=
  if resolver.used then (.error .alreadyResolved, resolver)
  else (.ok ((resolver.host machine).resolve args), { resolver with used := true })

/-- Resolves a command line with a resolver that is given up for it. -/
def resolveOnce (resolver : Resolver) (machine : Machine) (args : List String) :
    Except ResolverFault LaunchConfig :=
  (resolver.resolve machine args).1

end Resolver

/-- The resolvers that a program holds, by position. -/
abbrev Pool := List Resolver

namespace Pool

/-- What can be done with the resolver at a position. -/
inductive Action where
  | resolve (args : List String)
  | resolveOnceOnClone (args : List String)
  | clone
  | withStdin (stdin : StdinState)
  | platform

/-- What an action answers. -/
inductive Answer where
  | resolved (result : Except ResolverFault LaunchConfig)
  | clonedTo (position : Nat)
  | done
  | platform (platform : Platform)

def act (machine : Machine) (pool : Pool) (position : Nat) (resolver : Resolver) :
    Action → Answer × Pool
  | .resolve args =>
    let (result, resolver) := resolver.resolve machine args
    (.resolved result, pool.set position resolver)
  | .resolveOnceOnClone args => (.resolved (resolver.resolveOnce machine args), pool)
  | .clone => (.clonedTo pool.length, pool ++ [resolver])
  | .withStdin stdin => (.done, pool.set position (resolver.withStdin stdin))
  | .platform => (.platform resolver.platform, pool)

/-- Performs an action on the resolver at a position; `none` where there is none. -/
def step? (machine : Machine) (pool : Pool) (position : Nat) (action : Action) :
    Option (Answer × Pool) :=
  pool[position]?.map fun resolver => pool.act machine position resolver action

/-- Performs actions one after the other and collects the answers. -/
def runActions (machine : Machine) (pool : Pool) :
    List (Nat × Action) → Option (List Answer)
  | [] => some []
  | (position, action) :: rest =>
    match pool.step? machine position action with
    | none => none
    | some (answer, pool) => (runActions machine pool rest).map (answer :: ·)

end Pool

end ShellLaunch
