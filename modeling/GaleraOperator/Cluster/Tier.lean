import GaleraOperator.Cluster.Basic

/-!
# Tiers

A cluster has a tier of database pods and up to two tiers of proxies in front of it. Every tier runs in a StatefulSet
of its own, and its pods carry the labels of the tier.
-/

namespace GaleraOperator

/-- A part of a cluster that runs in pods of one kind. -/
inductive Tier where
  | database
  | haproxy
  | proxysql
  deriving DecidableEq, Repr

namespace Tier

/-- What the tier is called in labels and names. -/
def label : Tier → String
  | .database => "pxc"
  | .haproxy => "haproxy"
  | .proxysql => "proxysql"

/-- What the tier is called in messages. -/
def displayName : Tier → String
  | .database => "PXC"
  | .haproxy => "HAProxy"
  | .proxysql => "ProxySQL"

/-- All tiers, in the order in which they are looked at. -/
def all : List Tier := [.database, .haproxy, .proxysql]

/-- Whether the pods of the tier hold the database. -/
def isDatabase (t : Tier) : Bool := t = .database

end Tier

namespace Cluster

/-- The proxies of a tier, as the owner asks for them. -/
def proxies? (c : Cluster) : Tier → Option ProxySpec
  | .database => none
  | .haproxy => c.spec.haproxy
  | .proxysql => c.spec.proxysql

/-- Whether the owner asks for a tier; the database is always asked for. -/
def hasTier (c : Cluster) : Tier → Bool
  | .database => true
  | t => (c.proxies? t).any (·.enabled)

/-- The number of pods that the owner asks for. -/
def sizeOf (c : Cluster) : Tier → Int32
  | .database => c.spec.database.size
  | t => ((c.proxies? t).map (·.size)).getD 0

/-- The labels of the pods of a tier. -/
def tierLabels (c : Cluster) (t : Tier) : Labels := componentLabels c.name t.label

/-- The name of the StatefulSet of a tier. -/
def tierSet (c : Cluster) (t : Tier) : String := statefulSetName c.name t.label

end Cluster

end GaleraOperator
