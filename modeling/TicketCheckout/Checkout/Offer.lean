import TicketCheckout.Number.Decimal

/-!
# Offers

An offer sells the tickets of one tier of an event at one price. For general admission it
counts the units for sale and the units sold (reserved or paid); the difference is what is
still available.
-/

namespace TicketCheckout

/-- An offer of tickets. -/
structure Offer where
  id : Int
  eventId : Int
  tierId : Int
  name : String
  price : Number.Decimal
  forSale : Int
  sold : Int

/-- The units of an offer still available. -/
def Offer.available (o : Offer) : Int := o.forSale - o.sold

end TicketCheckout
