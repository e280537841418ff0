import DelegationAudit.Idna.Mapping

namespace DelegationAudit.Idna

open Text

/-- Entries of a gap, a length less one, and the class of the range. -/
def classLines : List String := [
  "4AUnGAAnIADmcAAnIAAmYAEmcABmKADmcABmKAKmcAEBADmcAHnGAAnQAAnGACmcACnGABmcBCnGADmcAAnGAAnIABmc",
  "AAnGAAnJABnKAAnJABnKAAnJAMnGoTEnGoJAmcADnGAAmcACnGAAmeAAmcAFnGAFmcABnGAAmcABnGAAmeAAnEAAnGAA",
  "KAALAAMAANAAOAAPAAQAARAASABTAAUAAVAAWBAXBAYAAZBAnGAAmcBASiIHnGAAeAAfAAhAhQAbAAcAAdAAeAAfAAhA",
  "AAhBAAhCABnGABmcAEnGAAmcABnGAAmcQAhDjFGnGCDnGAAmcAAnGCBnGBAmcABnGAAmchDAhEeAnGAAmcABnGAAmcAB",
  "nGACmcAAnGABmcAAnGAAmcACnGAAmcAAnGAAmcAAnGAAmcAAnGAAmcABnGlAGnGAAmcAAnGJAmcYDnGBInGBCnGBEnGh",
  "LCmchcAnGACmcADnGhKEnGAEmcANnGBAmcABnGAAmcABnGAAmcACnGACmcAAbAAcAAdACnGAAmcABnGABmcAEnGhcAHQ",
  "AJDAnGAAmcABnGjHAHQAJhQAnGhdAHQAJjOAHQAJjOAHQAJjfAJjOAHQAJHAiUAAibjFAHQAJjNBJQAJjcAJjNBjHAAJ",
  "NDjLjMBjWAAJNDjaiMBmcbAmcBAmcBAmYhXAkBAAkCBAkEFDkCCAkCBBnGAAJBBnGheAmcjQAHBBJiSAmc2PCnG9UBJe",
  "AJkdAJKAnGmLAnEkPAmeAAnGAAmcmbAnGAAmciHAJUHnGCAmchQEnGAFmcABnGAAmcBBmcABnGABmcAEnGAAmcADnGjF",
  "AHPAJhGAnGAAmcAGnGhWBJhaAHLBJiDAHkYCnGBABAEmcABnGADmcAAnGBGBEAmcGAnGDBnGmGBnGAAmcAGnGAAmcABn",
  "GAAnKAAmWAAmcAAmKAhEnGAAnIABnEAAmcAAmaAAnGAAnJAAmcAAnGAAmc2QBnGABBADnGACBABnGEAnGDBBAAnGAAmc",
  "AAnGABBADmcAAnGi_eCnGkNAJjAfnGxKAmaAAnEAAnIAAmeABnAjJBI9uUAnGEJnGhABnGiQBnGoUAJhFAJkXAJbRnGh",
  "ZCmchFAJifAHMAJnPAnGBBnGAAmcCBnGFBnGBAnGhUAJnWAJz5QAa4BGnGAGmcABnG-NAmcnCAmckVEnGh0SAmcBAnGh",
  "IAnGAABAAmcEAJlFAnGAAmcxdDnGsDBnGkZBmcACnGAAmcAAnGADmchRAnGAAmcAAnGAAmcmAAJhJAJOAJhZAJAAHiFC",
  "nGhQBJheAHiMAJJAHjKAJAAHlSAHAAJiQBHQAJYGnGDEnGmNAJDAHXAnGjDAJAAHnbAJAAHjeAJjWAJAAHjTAJoNAJAA",
  "HoCBJEAHkcAJiTAJSAJiRAJtFAJoCAHBBJiRAJzqYEBhbGnGhlZBGzlMABlmGBmYACBDAnCAEmYIHmcCEnGABmceDnGk",
  "UCnGjtbGnGBQnGCGnGBBnGBEnGoFGnGrXAnGhdDnGhvAGmcjNFnGAAH"]

/-- Composed characters with their two parts. -/
def pairLines : List String := [
  "mAiB4ABiB4BBiB4CBiB4DBiB4IBiB4KCiD5HBiF4ABiF4BBiF4CBiF4IBiJ4ABiJ4BBiJ4CBiJ4ICiO4DBiP4ABiP4BB",
  "iP4CBiP4DBiP4IDiV4ABiV4BBiV4CBiV4IBiZ4BDjB4ABjB4BBjB4CBjB4DBjB4IBjB4KCjD5HBjF4ABjF4BBjF4CBjF",
  "4IBjJ4ABjJ4BBjJ4CBjJ4ICjO4DBjP4ABjP4BBjP4CBjP4DBjP4IDjV4ABjV4BBjV4CBjV4IBjZ4BCjZ4IBiB4EBjB4E",
  "BiB4GBjB4GBiB5IBjB5IBiD4BBjD4BBiD4CBjD4CBiD4HBjD4HBiD4MBjD4MBiE4MBjE4MDiF4EBjF4EBiF4GBjF4GBi",
  "F4HBjF4HBiF5IBjF5IBiF4MBjF4MBiH4CBjH4CBiH4GBjH4GBiH4HBjH4HBiH5HBjH5HBiI4CBjI4CDiJ4DBjJ4DBiJ4",
  "EBjJ4EBiJ4GBjJ4GBiJ5IBjJ5IBiJ4HEiK4CBjK4CBiL5HBjL5HCiM4BBjM4BBiM5HBjM5HBiM4MBjM4MFiO4BBjO4BB",
  "iO5HBjO5HBiO4MBjO4MEiP4EBjP4EBiP4GBjP4GBiP4LBjP4LDiS4BBjS4BBiS5HBjS5HBiS4MBjS4MBiT4BBjT4BBiT",
  "4CBjT4CBiT5HBjT5HBiT4MBjT4MBiU5HBjU5HBiU4MBjU4MDiV4DBjV4DBiV4EBjV4EBiV4GBjV4GBiV4KBjV4KBiV4L",
  "BjV4LBiV5IBjV5IBiX4CBjX4CBiZ4CBjZ4CBiZ4IBia4BBja4BBia4HBja4HBia4MBja4MhCiP4bBjP4bOiV4bBjV4bd",
  "iB4MBjB4MBiJ4MBjJ4MBiP4MBjP4MBiV4MBjV4MBmc4EBnc4EBmc4BBnc4BBmc4MBnc4MBmc4ABnc4ACmE4EBnE4EBxG",
  "4EBxH4EBmG4EBnG4EDiH4MBjH4MBiL4MBjL4MBiP5IBjP5IBvK4EBvL4EBtX4MB0S4MBjK4MEiH4BBjH4BDiO4ABjO4A",
  "BmF4BBnF4BBmG4BBnG4BBmY4BBnY4BBiB4PBjB4PBiB4RBjB4RBiF4PBjF4PBiF4RBjF4RBiJ4PBjJ4PBiJ4RBjJ4RBi",
  "P4PBjP4PBiP4RBjP4RBiS4PBjS4PBiS4RBjS4RBiV4PBjV4PBiV4RBjV4RBiT5GBjT5GBiU5GBjU5GDiI4MBjI4MHiB4",
  "HBjB4HBiF5HBjF5HBmW4EBnW4EBmV4EBnV4EBiP4HBjP4HBxO4EBxP4EBiZ4EBjZ4EqSlI4BB8R4BC8V4BB8X4BB8Z4B",
  "C8f4BC9F4BB9J4BB-K4Ba8Z4IB9F4IB9R4BB9V4BB9X4BB9Z4BB-L4Ba9Z4IB-F4IB9f4BB-F4BB-J4BF-S4BB-S4IhM",
  "hgV4ABhgV4IChgT4BEhgG4IFhga4BBhgY4ABhhD4GLhgY4GhAhhY4GXhhV4ABhhV4IChhT4BEhiW4IFhha4BBhhY4ABh",
  "iD4GYhjU4PBhjV4PiKhgW4GBhhW4GOhgQ4GBhhQ4GBhgQ4IBhhQ4IDhgV4GBhhV4GDhmY4IBhmZ4IBhgW4IBhhW4IBhg",
  "X4IBhhX4IDhgY4EBhhY4EBhgY4IBhhY4IBhge4IBhhe4IDhnI4IBhnJ4IBhhN4IBhiN4IBhhD4EBhiD4EBhhD4IBhiD4",
  "IBhhD4LBhiD4LBhhH4IBhiH4IDhhL4IBhiL4IpJhxHhyTBhxHhyUBhyIhyUBhxHhyVBhyKhyUkah2VhyUCh2BhyURh2S",
  "hyUyWipIipcIipQipcDipTipckXiuHiteBiuHiuXrci6Hi6WDi6Hi5eBi6Hi6XiIi8Si-XhWi-Gi9eBi-Hi9eBi-Gi-X",
  "jcjiGjiWjYjlfjmVHjmGjmVBjmGjmWCjmGjmCBjmKjmVjfjqGjpeBjqHjpeBjqGjqXkOjuZjuKCjuZjuPBjucjuKBjuZ",
  "jufyIkhFkhOi3Am4Fm5VCm4Hm5VCm4Jm5VCm4Lm5VCm4Nm5VEm4Rm5VhJm5am5VCm5cm5VDm5em5VBm5fm5VCm6Cm5V1",
  "diB5FBjB5FBiC4HBjC4HBiC5DBjC5DBiC5RBjC5RBmH4BBnH4BBiE4HBjE4HBiE5DBjE5DBiE5RBjE5RBiE5HBjE5HBi",
  "E5NBjE5NBoS4ABoT4ABoS4BBoT4BBiF5NBjF5NBiF5QBjF5QBxI4GBxJ4GBiG4HBjG4HBiH4EBjH4EBiI4HBjI4HBiI5",
  "DBjI5DBiI4IBjI4IBiI5HBjI5HBiI5OBjI5OBiJ5QBjJ5QBmP4BBnP4BBiL4BBjL4BBiL5DBjL5DBiL5RBjL5RBiM5DB",
  "jM5DBnxW4EBnxX4EBiM5RBjM5RBiM5NBjM5NBiN4BBjN4BBiN4HBjN4HBiN5DBjN5DBiO4HBjO4HBiO5DBjO5DBiO5RB",
  "jO5RBiO5NBjO5NBmV4BBnV4BBmV4IBnV4IBqM4ABqN4ABqM4BBqN4BBiQ4BBjQ4BBiQ4HBjQ4HBiS4HBjS4HBiS5DBjS",
  "5DBnya4EBnyb4EBiS5RBjS5RBiT4HBjT4HBiT5DBjT5DBqa4HBqb4HBrA4HBrB4HBnzC4HBnzD4HBiU4HBjU4HBiU5DB",
  "jU5DBiU5RBjU5RBiU5NBjU5NBiV5EBjV5EBiV5QBjV5QBiV5NBjV5NBrI4BBrJ4BBrK4IBrL4IBiW4DBjW4DBiW5DBjW",
  "5DBiX4ABjX4ABiX4BBjX4BBiX4IBjX4IBiX4HBjX4HBiX5DBjX5DBiY4HBjY4HBiY4IBjY4IBiZ4HBjZ4HBia4CBja4C",
  "Bia5DBja5DBia5RBja5RBjI5RBjU4IBjX4KBjZ4KCrf4HFiB5DBjB5DBiB4JBjB4JBmC4BBnC4BBmC4ABnC4ABmC4JBn",
  "C4JBmC4DBnC4DBn1A4CBn1B4CBoC4BBoD4BBoC4ABoD4ABoC4JBoD4JBoC4DBoD4DBn1A4GBn1B4GBiF5DBjF5DBiF4J",
  "BjF4JBiF4DBjF4DBmK4BBnK4BBmK4ABnK4ABmK4JBnK4JBmK4DBnK4DBn1Y4CBn1Z4CBiJ4JBjJ4JBiJ5DBjJ5DBiP5D",
  "BjP5DBiP4JBjP4JBmU4BBnU4BBmU4ABnU4ABmU4JBnU4JBmU4DBnU4DBn2M4CBn2N4CBtA4BBtB4BBtA4ABtB4ABtA4J",
  "BtB4JBtA4DBtB4DBtA5DBtB5DBiV5DBjV5DBiV4JBjV4JBtP4BBtQ4BBtP4ABtQ4ABtP4JBtQ4JBtP4DBtQ4DBtP5DBt",
  "Q5DBiZ4ABjZ4ABiZ5DBjZ5DBiZ4JBjZ4JBiZ4DBjZ4DH9R4TB9R4UBn4A4ABn4B4ABn4A4BBn4B4BBn4A6CBn4B6CB8R",
  "4TB8R4UBn4I4ABn4J4ABn4I4BBn4J4BBn4I6CBn4J6CB9V4TB9V4UBn4Q4ABn4R4ABn4Q4BBn4R4BD8V4TB8V4UBn4Y4",
  "ABn4Z4ABn4Y4BBn4Z4BD9X4TB9X4UBn5A4ABn5B4ABn5A4BBn5B4BBn5A6CBn5B6CB8X4TB8X4UBn5I4ABn5J4ABn5I4",
  "BBn5J4BBn5I6CBn5J6CB9Z4TB9Z4UBn5Q4ABn5R4ABn5Q4BBn5R4BBn5Q6CBn5R6CB8Z4TB8Z4UBn5Y4ABn5Z4ABn5Y4",
  "BBn5Z4BBn5Y6CBn5Z6CB9f4TB9f4UBn6A4ABn6B4ABn6A4BBn6B4BD8f4TB8f4UBn6I4ABn6J4ABn6I4BBn6J4BD-F4T",
  "B-F4UBn6Q4ABn6R4ABn6Q4BBn6R4BBn6Q6CBn6R6CC9F4UCn6Z4ACn6Z4BCn6Z6CB-J4TB-J4UBn7A4ABn7B4ABn7A4B",
  "Bn7B4BBn7A6CBn7B6CB9J4TB9J4UBn7I4ABn7J4ABn7I4BBn7J4BBn7I6CBn7J6CB9R4AC9V4AC9X4AC9Z4AC9f4AC-F",
  "4AC-J4AEn4A6FBn4B6FBn4C6FBn4D6FBn4E6FBn4F6FBn4G6FBn4H6FBn4I6FBn4J6FBn4K6FBn4L6FBn4M6FBn4N6FB",
  "n4O6FBn4P6FBn5A6FBn5B6FBn5C6FBn5D6FBn5E6FBn5F6FBn5G6FBn5H6FBn5I6FBn5J6FBn5K6FBn5L6FBn5M6FBn5",
  "N6FBn5O6FBn5P6FBn7A6FBn7B6FBn7C6FBn7D6FBn7E6FBn7F6FBn7G6FBn7H6FBn7I6FBn7J6FBn7K6FBn7L6FBn7M6",
  "FBn7N6FBn7O6FBn7P6FB9R4GB9R4EBn7Q6FB9R6FB9M6FC9R6CBn9W6FB8R4GB8R4EB8R4AC8R6FFlI6CBn7U6FB9X6F",
  "B9O6FC9X6CBn-G6FB8V4AC8X4AC8X6FBn9f4ABn9f4BBn9f6CB9Z4GB9Z4EB-K4AE9Z6CB-K6CB8Z4GB8Z4EB8Z4ADn_",
  "e4ABn_e4BBn_e6CB-F4GB-F4EB-L4AC-B4TB-B4UB-F6CB-L6CB9F4GB9F4EB9F4AC9B4UBlI4AFn7c6FB-J6FB-O6FC",
  "-J6CBn_W6FB8f4AC9J4AC9J6FseosQ5YBosS5YTosU5YfouQ5YBouU5YBouS5YhVowD5YFowI5YDowL5YYoxD5YCoxF5",
  "Yboxc5YDoyD5YDoyF5YCoyI5YXhd5YCozB5YLoyN5YBhc5YBhe5YBozE5YBozF5YDozS5YBozT5YDozW5YBozX5YHoza",
  "5YBozb5YDo0C5YBo0D5YDo0G5YBo0H5YhDo1C5YBo1I5YBo1J5YBo1L5YhRozc5YBozd5YBo0R5YBo0S5YHo1S5YBo1T",
  "5YBo1U5YBo1V5YjqfsiLskZCsiNskZCsiPskZCsiRskZCsiTskZCsiVskZCsiXskZCsiZskZCsibskZCsidskZCsifsk",
  "ZCsjBskZDsjEskZCsjGskZCsjIskZHsjPskZBsjPskaCsjSskZBsjSskaCsjVskZBsjVskaCsjYskZBsjYskaCsjbskZ",
  "BsjbskaXsiGskZKskdskZOslLskZCslNskZCslPskZCslRskZCslTskZCslVskZCslXskZCslZskZCslbskZCsldskZC",
  "slfskZCsmBskZDsmEskZCsmGskZCsmIskZHsmPskZBsmPskaCsmSskZBsmSskaCsmVskZBsmVskaCsmYskZBsmYskaCs",
  "mbskZBsmbskaXslGskZDsnPskZBsnQskZBsnRskZBsnSskZEsndskZh38cikkZiklaCikkbiklaPiklFiklakDikpRik",
  "pHBikpSikpHwcik6Hik5eBik6Hik6XrPillZillaBillZillQCillZilldnciltYiltPBiltZiltP7dimpVimpQ"]

def onewayLines : List String := [
  "6AB4ABB4BCB4TBC4I4BhQB1ZKBhbJBlXhuRCioVipcBCioWipcBCioXipcBCiocipcBCipBipcBCipCipcBCipLipcBC",
  "ipPipcjdCitBitcBCitCitcCCitPitciUCixSixcDCixYixchDCiwWixcBCiwXixcBCiwcixcDCixLixcneCi5Bi5cBC",
  "i5Ci5c_GCj6Cj9XKCj6Mj9XFCj6Rj9XFCj6Wj9XFCj6bj9XNCj6Aj9VKCj7Rj7SCCj7Rj7UBCj9Sj8ACCj9Tj8AJCj7R",
  "j8ASCj8Sj9XKCj8cj9XFCj9Bj9XFCj9Gj9XFCj9Lj9XNCj8Qj9Vj9YB9MCB9NCB9OCB9PCB-MCB-NCB-OheB8GDB9ZLB",
  "8ICB8JIB8QIB8KIB9QIB8ODB8FBBjAKB8MCB8PCBlUDBogCBBogDpFB9JEBiLBBmFveBsgIBBsgJh9SCq2d5YhzxEBhj",
  "iIBB53UBBhj2KBBhjmIBB72RBBzxSBB0_FBBhn8cBBhn8cBB2qRBBhkuRBB1sHBB2qIBB4vWBB9zJBB_8FBBhhxfBBhh",
  "9aBBhinYBBhkkPBB6wCBB7obBB8mZBB8-eBBhhhdBBhkrKBBhmvRBBz0CBB07VBB64EBB8wbBBhhxNBBhnweBB3qQBB7",
  "_LBBhhuNBBhirEBB42JBBhguYBBhigfBB32KBB54XBB7rKBB83cBBhkmOBBz8GBB0tXBB02eBB5mEBB62TBB8wQBB93H",
  "BBhggBBBhhwGBBhhycBBhjvPBBhl5SBBhm7PBBhnvaBB-kMBB-rfBB_tABBhg-JBBhk4EBBhnzfBBhi2WBB2mfBB34EB",
  "B_jABBhgjeBB8zCBB-mKBBhjmCBBhl3XBB2mYBB3jCBB6wTBB7uaBB74PBB_pPBB_xXBBhlyLBB02SBBhgkLBB0ucBB0",
  "uMBB-wcBB_teBBhg_RBBhlzVBBhi8ABB42PBB6wCBBhi3eBBzxZBB2_HBB4gSBB88HBB9rQBB04XBB-nbBBz9fBB39JB",
  "BzwNBB7mMBB5rYBB_pCBB0-DBB2ieBB94BBBhhiJBBhi1KBB69aBBhj9QBB7kIBB43eBBhg3FBB49ABB9rFBBz1OBB0r",
  "JBB0uJBB6kBBB_nHBBhgzPBBhi2SBBhkuPBB03VBB1iCBB2rTBB33MBB5uFBB7_eBB-pKBBhltNBBhmzKBBhn0XBBhn2",
  "OBB00bBB52GBB67XBBhj7CBB3zUBB4sQBB4wABB5kaBB75DBB8qJBB9kJBB-uKBB_vUBBhgjPBBhj5GBBhhnOBBhkhDB",
  "Bhk6KBB0wXBB01DBB1ldBB8mIBBhimCBBhi1KBB32JBB3_VBB47bBB69OBB_heBB87VBBz3EBB13ZBB2_HBB3taBB4gc",
  "BB89SBB9jJBB_8aBBhgiGBBhkxUBBhl3WBBhl6IBBhmgYBBz8LBB-tOBBhktUBBhl1YBB4nBBBz0GBB0maBB2_OBB3hf",
  "BB5sZBB6wCBB8uOBB9yCBBhhncBBhkjcBBhn8NBB50IBBhlxOBB00JBB57bBB5_TBB7qBBB70cBB9gJBB9qZBB-jLBB_",
  "oQBBhmieBB0rNBB4xOBBhlzYBB0hLBB3oZBB7vKBBhj5KBB38LBB4qEBB6gXBB88HBBhl0GBB0xJBB1gPBB3jFBB5wTB",
  "B56OBB6lIBB7nFBB9gGBB9vCBB_7ZBBhimPBBhinBBBhkuMBBhl3CBB05fBB71aBB1gdBB8uQBB9kYBBhhvaBBhl1DBB",
  "hniXBBhn0fBB58XBB7uLBBhgvIBB-2LBB-5ABB_kSBB82ABB8kZBBhi6YBBz2ABBhg5WBB0xaBB0wHBB31GBB42TBB_m",
  "WBB28FBB7oeBB51UBBhj5bBBhiiMBBhlyNBBhisLBB32TBB0qABB1uADB2iaCB5zUDB0ueBB85KBB92KBB-pcBB-qeBB",
  "-rFBB-sPBBhl6WBB_leBB_9dCBhhwSCBhi3YDBhkhYBBhkndEBhmnPBBhmncBBhmpIBBhntUBBhkmeBBhl1XBBz9OBB0",
  "nHBB0qNBB02JBB03EBB06RBB1sdBB1wGBB1zIBB2iABB2lIBB3jEBB3jOBB4kUBB4rIBB4sOBB4vSBB5qPBB5vCBB50R",
  "BB6kFBB7rXBB7waBB75CBB8rOBB8xLBB9hCBB-kRBB-peBB-qJBB-qIBB-qQBB-qWBB-qdBB-sNBB-sOBB-yABB-0BBB",
  "--ABB_vUBB_wJBB_yBBB_7SBBhggFBBhgvNBBhgzZBBhgzZBBhhiXBBhioQBBhisWBBhi4BBBhi5ZBBhjmTBBhjoIBBh",
  "j9WBBhkhYBBhl3DBBhl_fBBhmhbBB4jVBBkw3OBBhgwYDBzxGBB0tVBB0rIBBz8ABB0qFBB0sABB02HBB03aBB1sdBB1",
  "qVBB1sZBB1vCBB2iaBB2lTBB2qEBB2qUBB2zCBB25IBB32SBB32ZBB37JBB39NBB4mYBB4qOBB4oIBB4sOBB4rABB4vS",
  "BB4xUBB4-EBB5gcBB5iSBB5qWBB5zUBB54XBB54bBB56WBB67ZBB69aBB7qBBB72bBB72LBB75CBB8geBB8rOBB99HBB",
  "8xVBB81PBB85KBB9jRBB9oGBB9pbBB9wdBB9wfBB92KBB92bBB93UBB96KBB96ABB-mMBB-1RBB--ABB_jbBB_qbBB_v",
  "UBB_5eBBhggFBBhg6SBBhg_PBBhh7ZBBhiqBBBhisGBBhisWBBhi1fBBhi3YBBhi2LBBhi4BBBhi3eBBhi3NBBhi5ZBB",
  "hi8KBBhjoIBBhj5YBBhkjSBBhksZBBhkzWBBhlzcBBhl3DBBhl6WBBhl-bBBhl_fBBhmgLBBhmhbBBhm4SBBhn8cBBkq",
  "iKBBkqiEBBks-VBBu8dBBwgYBBwhZBBk0yJBBk3mQBBk_2TBBhn6DBBhn8OiEChuZhtUCChvShtXLChvJhuBBChvJhuC",
  "BCh-6JhuBBCh-6JhuCBChuQhtXBChuQhtYBChuQhtcBChuRhtcBChuShtcBChuThtcBChuUhtcBChuVhtcBChuWhtcCC",
  "huYhtcBChuZhtcBChuahtcBChubhtcBChuchtcCChuehtcCChvAhtcBChvBhtcCChvDhtcBChvEhtcCChvGhtcBChvHh",
  "tcBChvIhtcBChvJhtcBChvKhtcBChuVhtZBChuRhtfBChubhtfBChvEhtfh1wQCj0qXj0rFBCj0qYj0rFBCj0qfj0rOB",
  "Cj0qfj0rPBCj0qfj0rQBCj0qfj0rRBCj0qfj0rSiXCj0tZj0rFBCj0taj0rFBCj0tbj0rOBCj0tcj0rOBCj0tbj0rPBC",
  "j0tcj0rPipyABzxdBBzxYBBzyBBBkgpCBBz7ABBz9OBBz9bBB0gCBB0jaBB0kZBB0nHBB0mPBBtkeBBkhxaBB0qNBB0q",
  "UBB0rEBB0rXBBkhocBBtlZBB0rHBB0sNBBkhqLBB0sXBB0tEBBz2MBB0tMBB0tVBBlkufBB0vVBB0wDBBtmfBB0xbBB0",
  "yGBB0zSBB0zXBBtoVBB02HBB02JBB03EBB03aBB04FBB04GBB04XBB06JBB06RBB06aBB07TBB07dBB07fBB07fBB07f",
  "BBkixMBB8jQBB0-KBB0-fBBki7DBB0_LBB0_RBB1gGBB1keBB1hYBB1iIBB1jIBB1lCBB1nWBB1oQBB1qTBB1rDBB1sE",
  "BB1sEBB1sZBB1tLBB1tTBB1uCBB14WBB1wGBB14XBB1yRBB1zUBB0wHBB2nOBB1-OBB1_UBB2gNBB18LBB2hSBB2hRBB",
  "2lMBBklnEBB2nSBB2nXBB2oGBB2oaBB2pCBB2rCBBkl1IBBkl3KBB2vMBB2wbBB2xHBB2uYBB2zGBBt3OBBt3cBB24IB",
  "B25eBB25eBBkmuIBB2-DBB2-YBB2_HBB2_TBBkm4YBB2_fBB3gGBB36TBB3hCBBt8BBB3jABB3jOBB3mABB3kNBBknvE",
  "BB3qDBBknvGBB3rOBB3rLBB3rcBB3vBBB3vCBBuhPBB3vdBB3xIBB3xdBB3zJBBujCBBkosDBBujcBB31QBB31TBB31W",
  "BB32KBBlo8SBB33eBBko5RBBko5RBBhgwBBB35CBB35CBBumHBBks1YBBk4uaBB37CBB37LBBunDBB38aBB3-NBB3-XB",
  "B3_ZBB4kBBBupaBBuocBB4kUBBkp2UBB4mHBB4qIBB4qMBB4qOBB4qMBB4raBB4sOBB4tSBB4tEBB4tPBB4ueBB4vSBB",
  "4vWBB4wQBB4wbBB4ydBB41RBB42UBB46QBBkq4MBB45dBB43cBB47IBB48DBB4_EBBkq_RBB5hCBB4-FBB49JBBuxOBB",
  "5jJBB5jeBB5kdBB5jXBBuzMBB5qPBB5rMBBksgKBB5vDBB53YBB5yJBBu4ZBB50RBBu4IBBu3EBB0sSBB0sVBB54ABB5",
  "0cBBhglNBBw-ZBB54XBB54bBB55BBB56eBB56TBBks-DBBu6JBB5_aBB58FBB6iSBB6kFBBktjNBB6kOBB6gfBB6oUBB",
  "u8dBB6qCBB6tDBB6vKBB61IBBkt1DBB62bBBvgYBB65BBBkulHBB66UBBviOBB67SBB68fBB69aBB69bBBku0NBBknoL",
  "BBku3aBB7iOBBkvlcBB7lfBB7mNBB7jHBB7oWBB7peBB7rXBB7qBBB7rJBB7rYBB7sFBBkvoeBB7pUBB7xPBB7zOBBvp",
  "TBB72LBB72HBBkv2RBB7vZBB77OBBkv6eBBkv8OBB7-GBB8hZBB8geBB8gbBBvsWBB8iKBB8jdBB8jXBB8lNBBkhpFBB",
  "8qFBBkwzDBB8scBBkw9LBB8xIBB8xVBB8yQBBkxwIBB80ABB80VBBkx5VBBkygUBB87aBB88LBBv1MBB89FBBv1YBBv1",
  "YBB9iHBB9icBB9jRBB9kFBB9mKBBv4bBB9pEBBkzhWBB9peBBkzkSBB9rQBBkosfBB9wQBBkz9BBBkz9YBBk0iEBBv_c",
  "BBwgIBB93UBBk0nTBBk0nSBBk0oZBBk0pTBB94eBB94fBB94fBB96KBBwhZBB98LBBwiGBBwkWBBk1gdBB-iOBB-kMBB",
  "-mMBBwnDBBk1xGBB-qWBBk10aBBk12FBB-sPBB-vLBBwpPBB-yABB-yKBB-yPBBk2rcBBk21HBBk21HBB-3OBBwwCBBk",
  "29LBB--GBB--JBBwxHBBk3kABB_mSBBw1ABB_nIBB_nDBB_oABBk38GBB_rDBBw4BBB_uHBB_wCBB_yFBBw5UBBk4xIB",
  "Bk4yHBBw6ZBBk42ZBB_7aBBk45eBB_8VBB__aBBhggFBBk5maBBk5pDBBhgjABBk5tIBBhgjQBBks6fBBw-VBBhglSBB",
  "hgoDBBxgLBBhgpeBB21VBBk59HBBk59VBBks8TBBks8cBBhgwBBBhgwEBBhj8eBBxjLBBhg0RBBhg0LBBhg0dBB01TBB",
  "hg1RBBhg1TBBhg1dBBhg3GBBk65cBBhg3FBBhg4dBBhg7DBBhg9NBBhg5DBBhg9dBBhg_HBBhhiXBBhg6TBBhg-KBBhg",
  "-MBBhg-cBBk7hWBBk7rLBBk7mVBBxpLBBhhnRBBhhnTBBhhoWBBk8-KBBhhrEBBk75MBBxqdBBxrBBBk79RBBk8mSBBx",
  "rLBBhhyQBBhhycBBhhzHBBhhzJBBhh1JBBhh0IBBhh4OBBhh3CBBhh7ZBBhh5IBBhh7LBBhh8GBBxuXBBhh_BBBhigBB",
  "BxvZBBhijABBhijDBBk9zHBBhimXBBhimeBBxxVBBhinaBBtlbBBk-lOBBk-rGBBx1eBBx2HBBhi1ABBhi3NBBhi8KBB",
  "hjiVBBk_lIBBhjlLBBhjmBBBhjobBBhjrXBBk_5PBBkigEBBhjuLBBhjtcBBhjvQBBkimeBBhj2UBBhj5YBBlhuSBBlh",
  "vNBBhkkUBBhknRBBhkoRBBlh5OBBhkobBBhkxYBBhk2XBBhk2YBBhkzcBBhk_ZBBhlgVBBli_aBBhlsLBBysVBBhltXB",
  "BljrXBByvGBBhl2DBB3tSBBhl5DBBlkqFBBlkwaBByzOBByzWBBhl_ABBllgKBBy1SBBllkWBBhmgLBBhmgLBBhmhJBB",
  "lltWBBhmnCBBy5TBBhmpJBBhmtHBBhmuCBBhmveBBy-OBBlm5QBBhm4SBBhniABBhnndBBzmOBBznNBBhnrHBBlomOBB",
  "znYBBlooFBBlowOBBlo0RBBhn1bBBzqWBBhn3ZBBhn3eBBhn4FBBhn4PBBhn4WBBhn5bBBlpwA"]

def valuesFrom (last : Nat) : List Nat → List (Nat × Nat × Nat)
  | gap :: len :: v :: rest => (last + gap, last + gap + len, v) :: valuesFrom (last + gap + len + 1) rest
  | _ => []

def pairsFrom (last : Nat) : List Nat → List (Nat × Nat × Nat)
  | gap :: a :: b :: rest => (last + gap, a, b) :: pairsFrom (last + gap) rest
  | _ => []

def classTable : Array (Nat × Nat × Nat) := (valuesFrom 0 (unpack classLines)).toArray

def pairTable : Array (Nat × Nat × Nat) := (pairsFrom 0 (unpack pairLines)).toArray

def onewayTable : Array (Nat × List Nat) := (entriesFrom 0 (unpack onewayLines)).toArray

def classOf (n : Nat) : Nat :=
  ((classTable.find? fun r => r.1 ≤ n && n ≤ r.2.1).map (·.2.2)).getD 0

def isSyllable (n : Nat) : Bool := 0xAC00 ≤ n && n < 0xAC00 + 11172

/-- Korean syllables decompose by arithmetic. -/
def syllableParts (n : Nat) : List Nat :=
  let s := n - 0xAC00
  let head := [0x1100 + s / 588, 0x1161 + s % 588 / 28]
  if s % 28 == 0 then head else head ++ [0x11A7 + s % 28]

def parts? (n : Nat) : Option (List Nat) :=
  ((pairTable.find? fun r => r.1 == n).map fun r => [r.2.1, r.2.2]) <|>
    (onewayTable.find? fun e => e.1 == n).map (·.2)

/-- No character decomposes in more than `depth` steps. -/
def decompose : Nat → Nat → List Nat
  | 0, n => [n]
  | depth + 1, n =>
    if isSyllable n then syllableParts n
    else ((parts? n).map fun ps => ps.flatMap (decompose depth)).getD [n]

/-- Puts a mark behind all that have a class no greater; starters are never passed. -/
def insertMark (n : Nat) : List Nat → List Nat
  | [] => [n]
  | m :: before => if classOf n != 0 && classOf n < classOf m then m :: insertMark n before else n :: m :: before

/-- The result is in reverse. -/
def orderMarks (codes : List Nat) : List Nat := codes.foldl (fun before n => insertMark n before) []

def composeHangul (a b : Nat) : Option Nat :=
  if 0x1100 ≤ a && a < 0x1113 && 0x1161 ≤ b && b < 0x1176 then
    some (0xAC00 + ((a - 0x1100) * 21 + (b - 0x1161)) * 28)
  else if isSyllable a && (a - 0xAC00) % 28 == 0 && 0x11A7 < b && b < 0x11C3 then
    some (a + (b - 0x11A7))
  else none

def composePair (a b : Nat) : Option Nat :=
  composeHangul a b <|> (pairTable.find? fun r => r.2.1 == a && r.2.2 == b).map (·.1)

def blocked (marks : List Nat) (n : Nat) : Bool :=
  match marks with
  | [] => false
  | m :: _ => classOf n ≤ classOf m

/-- `marks` holds what stands between the last starter and here, nearest first. -/
def composeFrom (starter : Nat) (marks : List Nat) : List Nat → List Nat
  | [] => starter :: marks.reverse
  | n :: rest =>
    match (if blocked marks n then none else composePair starter n) with
    | some m => composeFrom m marks rest
    | none =>
      if classOf n == 0 then starter :: (marks.reverse ++ composeFrom n [] rest)
      else composeFrom starter (n :: marks) rest

def compose (codes : List Nat) : List Nat :=
  let lead := codes.takeWhile (fun n => classOf n != 0)
  match codes.dropWhile (fun n => classOf n != 0) with
  | [] => lead
  | n :: rest => lead ++ composeFrom n [] rest

def composed (codes : List Nat) : List Nat :=
  compose (orderMarks (codes.flatMap (decompose 8))).reverse

end DelegationAudit.Idna
