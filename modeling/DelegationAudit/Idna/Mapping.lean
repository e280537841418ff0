import DelegationAudit.Idna.Fault

namespace DelegationAudit.Idna

open Text

def keptTable : RangeSet := RangeSet.ofLines [
  "AiAahEhBGBABBBABBEBDADAXAHhABABABABABABABABABABABABABABABABABABABABABABABABABADABBBABABADABA",
  "BABACABABABABABABABABABABABABABABABABABABABABABABACABABABACABACADBEACADCCACABABACABBBACADABA",
  "CCBGKABABABABABABABBBABABABABABABABABBEADABABABABABABABABABABABABABABABABABABABABABABABABABA",
  "BABABABGCACBBAEABABABABjAJeGBFiaCADIBfBABABABADCSAbhCIABABABABABABABABABABABABADACABACBhThPB",
  "ABABABABABABABABABABABABABABABABIBABABABABABABABABABABABABABABABABABABABABABABABABABABACABAB",
  "ABABABABBBABABABABABABABABABABABABABABABABABABABABABABABABABABABABABABABABABABABABABABABABAB",
  "ABABABABABABAhJhNBCCCBhXHaEFRVBiXEjDBhPChaCjEOhaChQCOBbCABKFfHiKBjUIhDBHCBCVBGBADDCICBCDIAID",
  "CYCCBFEBCVBGBACACBCABEEBCCDAKAJQKCBIBCBVBGBBBECJBCBCCAPDCLHGBCBHCBCVBGBBBECICBCCFEHECRKBBFDC",
  "BDDBBABBDBDCDLEEDCBDCAGAOUFMBCBWBPCIBCBDHBBCBBCDCJHVBCBWBJBECIBCBDHBFCBDCJBCMMBCBhSBCBFEPCZB",
  "CBRDXBIBACGDAEFBABHGJCCMhRBGEchFBBABEBXBABLBJCEBABGBJEBhALBhVBDBDBDBDBDBLBCEBBAFGBQBDBDBDBDB",
  "DBLBCBOBMhFkfhQhLBjBCnHBDCGBABDChIBDChABDCGBABDCOBhYBDCiCCfDZGiVKzfBbDiYHVJXJTMMBCBBMhTChHCJ",
  "GJGKFJGiYHhKFiFKeBLELEADhJCELhLEZGKDhdCiABcCKGJGNChOBLUiMBlFIhbDODhSKAhVHIhKFhLDALASAcMBhBhF",
  "hfBABABABABABABABABABABABABABABABABABABABABABABABABABABABABABABABABABABABABABABABABABABABABA",
  "BABABABABABABABABABABABABABABABABABABABABABABABABABABABABABECBBABABABABABABABABABABABABABABA",
  "BABABABABABABABABABABABABABABABABABABABABABABABABABABABABABABABABABIIFKHIHIFKHIHIABABABABABA",
  "BAhTBEAPAJCDBICBDOAVBCABEBLDAICCACDBABHDMBGhQAQHBaMhATADALACBFBDABABABAEALAGDFFhQCBEBBEkbCAC",
  "nXCneWKlAhpABjGDjEBkWCkJhQhPBADBBABABAEABBBFFABABABABABABABABABABABABABABABABABABABABABABABA",
  "BABABABABABABABABABABABABABABABABABABABABABABABABABHBABDBAFhMBAFAChXIAOXJGBGBGBGBGBGBGBGBjdC",
  "AfZBDBiSoOABhSBADEBiVCBCBBieGhKjABOiFKPiIHhPAsA8kMDhWJqbVABABABABABABABABABABABABABABABABABA",
  "BABABABABSBABABABABABABABABABABABABABACiZIhBBABABABABABABCBABABABABABABABABABABABABABABABABA",
  "BABABABABABABABABABABABABABABHBABACABABABABDBABBBABCBABABABABABABABABABAFAFABABABABABABABAEA",
  "BACABABABABABABABAaBChSDJGhXIiFILGjTLdDiNBKEhABhWJNCJCjGYbKFCFCFJGBGBhLEIBBiUhNCJGq9DMWEhQow",
  "SBBABBKABABBCCnUAkThArLRiABhWHhNChAPVBhMAsMLBZBSBBBOCNhCjaFCEhMDiXBMDAhPhNkCcDhQPbEhDJdFhKFd",
  "BhEENiSjVCJhOhDEhHIhTLAhHKBOBGBBDhTMpWJVKHYAjfFCABhLBBDACWBiHIIhQSBBFhADaFahGhXETChRBBFHBCBc",
  "CCEJHIHhfhAhGELJhVDcCaFZHDMGiQiIjXhSHhNIJGPZcIBmQeBhJBCCBQFBAGIhBhNIhJWZhGbUWJiNEhDJhdBENYHJ",
  "GhUBRIhGJifBTLRBhOheGBABDBOBKGhaFJGDBHCBCVBGBBBEBJCBCCCAGAFGCGDELJBACABhFBJBACABDBJBBIBdibBE",
  "eiHIJlGhVChFhCiELJGMThZGJGTcaCOEWlZhbkEhSMHCACHBBBdBBCLJJiGHChNCKbiHIiSNiIHJiWHiYhBOJGIBhMBN",
  "KcDfCVBNiJGBBBhLDABBBIIJGFBBBhEBBBFHJGhLEJnWYHQBhIDciVAPhRN8ajGjOBELmDiyMjCNhhPQVKj8aFyGm1Zh",
  "Zh2GxYHeBJEiQBJGdCFKiFKJBGBUFStQhZnGhahAYhMiKEhYHQiAELGJnmVhJfjBjSovdDBGBBBpCPAdCCAODIsLioEj",
  "KFMDIHJCDj7AmVhECDtTGWPQPhNCWJjThcnVKhGChUHNIhfGhJViFjaTMTMiWJYhkH0LPEBOhiQfFFmVGBQCGBBBEjEA",
  "jQhMDNCJEBqAeRhZFAuQhJmWhKEAmAeBVIBnAGBDBBBOBmECPiLhJEJEB4RiDiMhctSBoOhLEjDMOCOBOBhEVEfAhAZD",
  "hCBchYZjAFka-YDQDMDmZGLEAPLEhXIJGhHIdCLEBOIhHqXINCMDKDhYBAEPCLEJHkSBibKAhgFhp2fhAkoeBl0NCnpQ",
  "PzNktCk6KFopJhm8Grhf"]

def droppedTable : RangeSet := RangeSet.ofLines [
  "lNA1BAjwPBhyTBiVEh_bAiUEFFknUAhzkbPnPAlAAhvnfDlmPH4r8FnP"]

def movedTable : ShiftMap := ShiftMap.ofLines [
  "iBZAiAifAAnfKAAkRIBAnfDAAhwOEAAoPBAAkVGWAiAYGAiAhIXBChUBBCFCBCIDBCJWBChOAAnRBCBCGAAwXCAAtEBB",
  "BCEAAscBAACCBAsaCAACDAAkeBAAsUBAAsWBAACCAAsaBAAseCAAtGBAAtCBAACEAAtGBAAtKCAAtMBCBCGAAtUBAACC",
  "AAtUDAACCAAtUBAACCBAtSCBBCEAAtWBAACEAACRHBCRIBCWAACCAAmBBAAjPBTBChIAAoDCIBCYAA1iWBAACCAAqFBA",
  "A1iQDAACCAAsFBAAkKBAAkOBEBCjKAAhkPBAAkVBAAhkPBAAhkBBAAjVBAAjTBAAjJBAAhjfBAAhjdhIAAnZBAAhnJBA",
  "AhmdBAAhmVBAAkdicBAjfDAAifCAAnIhLBBCEAArVCAACIAAh0FBAAnIHAAiMBAAhsfBCAiKEAAkACBAjeDQAiASIAiA",
  "hMAAQBAAhbBAAhRBAAZBAALBAARBAAdBAAhLCLBCYAAjLBAAifBAAidCAAjXBAAjfCAACCAAjLBAACDCAoDDPAlAQfAi",
  "AiQQBChKaBChWAAeBGBCPhPBCjBhFAjAhHAAehUAAhNisAAABsUhFAumAhHAAumAGAAumAhPAAhf3cFAPikIAAskbBAA",
  "skZBAAskHBBAskDCAAskFBAAsjXBAAsiHBAAik8GBAACHhKAl7fhNCAl7fjPAAusVBAAukNBBBusXDAAusXBAAt1JBHA",
  "usXJAAusZBAAtxTBAAusbBAAusZBBAusXCAAusVBAAuuDBBAtvHCAAkHBAAuuJBBAuuHCAAtvBBBAtufCAAuuLCAAuuH",
  "BAAuuFBAAugLBAAuuFBAAtvdBBAjbCAAuuLBBAuuFCAAjXBAAtuVBAAuuJBAAjNBCAs6VDBAs5TCAAuvRBAAuvBBBAuu",
  "dCBAs7HCAAs6NBBAs6FPAAszVhDAAt0RBAAuzRBAAt0PBAAuqbBAAt0FBAAuzTBAAt0DBAAt0BBAAtzbBCAtzXDAAiXB",
  "AAtwVBAAtzXBAAiJBAAtwXBAAtzVBAAtzZBDAtzXEAAtzTBBAtzBCAAugTBBAtyZCAApXBBAtybCAAu0BBCAtyXDAAtg",
  "NiBiKBCkbAAjTDAAu7dChPBCjIHAPQFAPQHAPQHAPQFAPRDBPPHAPJAAt8JCAAt8LCAAt8NCAAt8PCAAt6ZCAAt6bCAA",
  "t6dhbBAPCAAkTBAAugdDAAugJKAAlLBAAuhXBAAlLBAAuhZIAAukFFBAPCAAmHBAAuiXIAAujFFBAPCAAmfBAAuhbBAA",
  "NDAAv4dJAAnfBAAuiZBAAnbBAAuiZFAAv9fBAAv-BBAAv-DBAAv-FBAAv-HBAAv-JBAAv-LBAAv-NBAAv-PBAAv-RBAA",
  "v-THAABeAAwgdhQAAwjdRAAwjfBAAwgPDFAwjfGAAwkdBAA5OBAAwjdBBAwlJCAAwhBBJAwkfKAAwldBAA4OBAAwkdBB",
  "AwmJDAAwidBAAwiXBAAwiFBAAwhVBAAvjVBAAwiZBDAwiVEAAwiTBBAwiPCAAwiLBAAwiJBAAwiJjDAAwpdFAAvqXDBA",
  "wqFCAAwqHBAAwqJBAAwqLBAAv-PBAAwqNBAAwqPBAAwqLBBBwqNGCAwqRDAAwqTBAAwqVHAAwqTCAAu1ZCAAwqbCAAwr",
  "dBAAwkLBBAwsTDAAwsTBBAwsVCAAhYBAAwsLBAAwsJBDAt2JEAAwsfDAAu3XBAAu4TBAAu4VBAAu3dBAAtCFAAwuBBBA",
  "wuDCBAwtdYAAwvNEAAwubFAAwvBDAAwvfBBAwwTCAAwwDBAAwwNEAAwvbFAAwwBDAAwwfBBAwxTCAAwxDEAACtGBAmte",
  "pXIAyidiWZAylJaZAymdaAAyrTh4WhPAjAjAAACCAA0_NBAAnuLBAA0-NDCBCGAA1hXBAA0_ZBAA1hdBAA1hbCAACDAA",
  "CHAA2hDBAA2gNBBA1jdChRBCjLBBCHAACjdAAbpQAA-yciUAAh4qYNAAvwABAAvyOBAAvzIBAAvzYBAAv1KBAAv4ABAA",
  "v4MBAAv5SBAAv7EBAAxjMBAAxlWBAAxmABAAxnMBAAxoSBAAxpaBAAxtCBAAxuKBAAxueBAAx4SBAAx-MBAAygCBAAyg",
  "KBAAyiEBAAyiUBAAykIBAAylABAAymQBAAypWBAAyqYBAAysMBAAz7SBAA0gABAA08WBAA0-CBAA0-QBAA0_EBAA1gGB",
  "AA1kcBAA2iUBAA2lSBAA2tABAA2uMBAA2vQBAA2waBAA20EBAA20IBAA3qaBAA3rMBAA3sCBAA3saBAA30ABAA30OBAA",
  "30WBAA37eBAA38QBAA39IBAA39WBAA4hOBAA4iOBAA4jQBAA4oOBAA5sWBAA5vQBAA5wYBAA6-eBAA6_GBAA7kKBAA7l",
  "IBAA7mABAA7nIBAA7pUBAA7pcBAA76QBAA77eBAA79cBAA99KBAA-hMBAA-iYBAA-mKBAA-nYBAA-oIBAA-oUBAA-raB",
  "AA-sCBAA-uABAAhgxMBAAhhtIBAAhhteBAAhhuGBAAhhuMBAAhhuaBAAhhvcBAAhhveBAAhh0eBAAhiiMBAAhiiUBAAh",
  "i3YBAAhi4KBAAhi7MBAAhi7YBAAhi8IBAAhi8WBAAhjiKBAAhjiWBAAhjwcBAAhjxIBAAhj0IBAAhj1IBAAhj4EBAAhk",
  "mcBAAhknIBAAhkoIBAAhk8UBAAhlkOBAAhlkYBAAhlwCBAAhl1OBAAhl4IBAAhmvaBAAhm4CBAAhn7cBAAhn9QBAAhoh",
  "ABAAhokEBAAhooKBAAhooeBAAhopIBAAhorIBAAhoveBAAhowQBAAhpmCBAAhpmOBAAhpmeBAAhpnOBAAhpoMBAAhppI",
  "BAAhppOBAAhpuKBAAhpuQBAAhpuaBAAhrsCBAAhrtcBAAhsrEBAAhsraBAAhstGBAAhs-aBAAhs_SBAAhtjeBAAhtmYB",
  "AAhuqEBAAhurABAAhurcBAAhuuABAAhuwIBAAhu8UBAAhu9KBAAhvhOBAAhvwcBAAhvyYBAAhv_YBAAhwhABAAhwhIBA",
  "AhwueBAAhw6MBAAhxiEBAAhxiOBAAhxiWBAAhy9ABAAhy9QBAAhznGBAAhzwYBAAhzwcBAAhzzYBAAhz6IBAAhz7ABAA",
  "hz7GBAAhz7SBAAh0hUBAAh0jWBAAh0kABAAh0kaBAAh0vGBAAh0yKBAAh0yQBAAh09cBAAh0-ABAAh0_EBAAh1uaBAAh",
  "1xYBAAh1yEBAAh12OBAAh13ABAAh13EBAAh13WBAAh15QBAAh2yEBAAh3rCBAAh3rUBAAh3teBAAh3vIBAAh3vWBAAh3",
  "wIBAAh3wOBAAh3ycBAAh3zCBAAh30CBAAh30KBAAh31CBAAh32WBAAh33SBAAh34ABAAh37UBAAh38QBAAh38WhLAA39",
  "fCAA39HhUAAiHCAAxwSBBAxwWnYBAwjBCAAv4RBAAwjDBBAv4RCCAwjHDFAv4TGAAwiLBCAwjVDAAwiFBJAwjXKUAv-b",
  "WBAwlBCBAv5fCAAv5ZBAAv5XBAAv5PBAAv5JBAAv5HBAAwlDBAAv5DBAAv5BBBAwlHCAAwlFBBAwlDCAAwkdBAAwkbBE",
  "AwkZFAAwkVBAAwkPBAAwjdBAAwjRBAAwjJBBAv5BCCAwiZDBAwgFCAAwgBBBAv_RCAAv_PBAAv-dBAAv-ZEAAumcBAAu",
  "vSBAAunKBAAy0MBAAunIBAAupMBAAunGBAAhh5SBAAureBAAuncBAAumKBAAz4YBAAy5EBAAuxWlFAAxwWBAA2jOBAA5",
  "0CBAAhk0QZAAw1fBBAw1dCCAw1bDAAw1ZBBAw1XCEAw1VFAAh85EBAAh_iSBAAignIBAAiiwWBAAij1MBAAik6CBAAin",
  "jQBAAipseBAAiqxUBAAis7CBAAit_YBAAivkOBAAiwpEBAAixtaDAAiqjECAAt4ABAAugWBAAt4OBAAylQBAAuhABAAv",
  "uQBAAt3aBAAvuIBAAt9KBAAwrQBAA6ncBAA--ABAA86QBAA6pWBAAhv0GBAAypABAA51KBAA65SBAA6nOBAAhjqWBAAw",
  "3SBAA_-IBAAhtgWBAAhjsMBAAwhYBAAhjzeBAAhhpaBAAztQBAAhu8aBAAvoaBAAwtEBAA9kSBAAhy2KBAAunABAAvvO",
  "BAA8sABAAt2MBAAt4QBAAt2KBAA1zeBAAw0WBAAwpEBAA0uaBAA0rWBAAhijOBAAulIBAAhthSBAAwqKBAAzmYhAAAhi",
  "bBAAhiZBAAhiXBAAhiVBBAhiTCAAhiRBAAhiPBAAhiNBAAhiLBAAhiJBAAhiHBAAhiFBAAhiDBAAhiBBAAhhfBAAhhdB",
  "AAhhZBAAhhXBAAhhVBFAhhTGAAhhPBAAhhLBAAhhHBAAhhDBEAhgfFAAhgdBAAhgbBFAhgZGDAhgX86FWBCiANBCcAAi",
  "xlDBAAixlBkFGBCQeBCheAABJBBCEAAilgHBEBCNAACCAAiyyPDBBCGJBCUAAiy0HBAAiy0dBAAiy0VBAAiy0BBAAiy0",
  "HCAAiyxDBAAiyyTBAAiyxJBAAh6ABHBCQAAifBAAiy0FBAAiljPBBBCEAAiy2NBHBCQAAizkBBAAiy2LUAAiz3bBAAiz",
  "4dBAAiz4ZBAAiz4FBAACDAAiztBBAAizqL7DAAijJBAAiLBAAi0vFBAAZKAAi0tXHiPAir8fzsQAAh2rPBAAipgZBAAh",
  "1jPBAAh2jVBAAiljFBAAi1tFBAAiyyBBAAhs2VBAAhs2XBAAiv7PBAAhzzRBAAix4HBAAiv8HBAAirxNBAAihqJBAAh8",
  "4TBAAh5tBBAAh41NBAAh4hTBAAh0oHBAAinxDBAAil_TBAAikjZBAAiizRBAAh6tVBAAhz6dBAAhvyRBAAi1pRBAAiy6",
  "NBAAinhRBAAijwFBAAh5vDBAAhtwDBAAit9BBAAikzNBAAh51LBAAh37fBAAirlXBAAh70bBAAh4wPBAAitlbBAAiphD",
  "BAAil7fBAAijidBAAh0lbBAAi06NBAAiz3NBAAizlBBAAiqmXBAAinlbBAAijyDBAAihkXBAAh8zFBAAh5ydBAAh5tTB",
  "AAh10PBAAhxgLBAAhu8TBAAhtzfBAAigqdBAAh_7ZBAAh95ZBAAh63JBAAhzjVBAAhtsBBAAh3mVBAAiwmFBAAitjdBA",
  "Ah-uHBAAh8sNBAAijuHBAAignZBAAh2oLBAAhxlDBAAiwnDBAAiuuRBAAinzRBAAil3FBAAiljdBAAh-hfBAAh9xRBAA",
  "hxwLBAAiznfBAAh8sPBAAiz3PBAAiz4RBAAh_zTBAAh95RBAAh62NBAAhxuHBAAh29TBAAiroXBAAin1TBAAh3ldBAAi",
  "1yJBAAiu3PBAAis0bBAAii9TBAAih_DBAAizkXBAAigmRBAAi06LBAAis7ZBAAi11TBAAimpXBAAip_BBAAh-kPBAAiy",
  "6PBAAiwwbBAAihmXBAAh6yJBAAh3sJBAAim7LBAAh08BBAAimuTBAAirnJBAAh7odBAAiq9JBAAiihBBAAi1sRBAAi0g",
  "dBAAiz6fBAAiovRBAAh-pHBAAh7wZBAAh3qVBAAhz6dBAAizoTBAAiyzbBAAiwgbBAAitpLBAAip7bBAAik4LBAAiglV",
  "BAAhx9RBAAhvxZBAAhtvBBAAhtrVBAAizudBAAipsJBAAinhJBAAh1iVBAAitxTBAAir_dBAAir4fBAAiqvNBAAilmdB",
  "AAikkTBAAiiwVBAAh_8VBAAh96DBAAh8yPBAAh1nDBAAh6qVBAAh03NBAAhzlBBAAiz4JBAAizvTBAAiyuBBAAiktNBA",
  "Ah4tbBAAh3vNBAAittRBAAis6bBAAiriRBAAim_NBAAh-2PBAAijjDBAAi1sHBAAixqfBAAiu8FBAAit_BBAAis4fBAA",
  "ii_VBAAii0JBAAh9hJBAAh82TBAAhz3ZBAAhxrXBAAhxmVBAAhw5XBAAi1iTBAAiggPBAAh0gFBAAhxvfBAAistPBAAi",
  "1zHBAAi0uBBAAiu8bBAAiu3bBAAiqiJBAAin7ZBAAij_DBAAih3dBAAh6sLBAAh00NBAAhtjNBAAipzZBAAhx5PBAAiz",
  "zbBAAipkZBAAio9LBAAimoRBAAilydBAAii8FBAAiinHBAAig2FBAAh-rdBAAhw3DBAAi0mHBAAir6HBAAhx1VBAAi06",
  "RBAAiurXBAAil-XBAAh1qZBAAitkZBAAispJBAAio8FBAAijlHBAAhx1LBAAiz7HBAAiy8dBAAiu3TBAAip8ZBAAippF",
  "BAAiozTBAAimvbBAAii9bBAAiigFBAAh9mZBAAh4xPBAAh4wNBAAh0hZBAAhxwPBAAizqXBAAilzDBAAiy8fBAAikhbB",
  "AAii1NBAAh5_LBAAhx0bBAAhu5VBAAht1HBAAiplZBAAimiTBAAh8gbBAAh_yXBAAh_tPBAAh-2NBAAijzTBAAik2DBA",
  "Ah3qHBAAi1zZBAAh7sPBAAiz8JBAAiz_RBAAit1VBAAirydBAAh-yZBAAivndBAAimuNBAAip1DBAAh1sXBAAh47XBAA",
  "hx7XBAAh4ndBAAitzPBAAi0sXBAAiykZDAAiw7LCAAip5bDAAi0jNBAAijuXBAAih0ZBAAigtXBAAigrVBAAigrJBAAi",
  "goXBAAhxsLBAAh-1dBAAh9mBCAAh6gbCAAh3yTDAAh0-ZBAAh0yREAAhwzVBAAhwydBAAhwwHBAAhunRBAAh00fBAAhx",
  "3PBAAi1oDBAAi00TBAAi0uJBAAiz2TBAAiz0fBAAizuHBAAiypRBAAiyjBBAAix8fBAAiw_RBAAiw5DBAAiu9NBAAiu8",
  "bBAAis6RBAAistLBAAisrBBAAiskbBAAiqvDBAAiqlfBAAip7DBAAio7dBAAimsbBAAimiXBAAilyJBAAiktTBAAikhb",
  "BAAijiPBAAig7TBAAigwbBAAigwHBAAigwLBAAigvdBAAigvTBAAigvHBBAigsJCAAighHBAAh_9HBAAh_pLBAAh-mFB",
  "AAh-kdBAAh-hPBAAh9uPBAAh9lLBAAh8mdBAAh7-HBAAh7-JBAAh7gPBAAh40fBAAh4sVBAAh32BBAAh3yTBAAh25BBA",
  "Ah21ZBAAh1qfBAAh1idBAAhx4JBAAhxmTBAAhxidBAAis_LBAAlkoEBAAh8lJDAAi2kTBAAi0rXBAAi0wTBAAi1vFBAA",
  "i0ydBAAi0vJBAAiz6dBAAiz3ZBAAiytVBAAiyyHBAAiyuBBAAiypRBAAixiDBAAiw8TBAAiwzTBAAiwyVBAAiwhbBAAi",
  "v1RBAAit6fBAAit6TBAAitxVBAAittPBAAis6bBAAiszRBAAis3fBAAisvVBAAisyTBAAispRBAAislPBAAirsRBAAir",
  "nDBAAirjZBAAiqzTBAAiqhZBAAip3VBAAip3PBAAipzbBAAinxXBAAintXBAAim1LBAAil7ZBAAil8bBAAil3PBAAiln",
  "ZBAAikybBAAihvLBAAikmRBAAij-fBAAij3LBAAijifBAAii5XBAAii2PBAAiioNBAAiioLBAAih9XBAAih8XBAAih7H",
  "BAAih1dBAAih2TBAAig9dBAAh__VBAAh_uZBAAh_jFBAAh-1HBAAh-rXBAAh93FBAAh9qZBAAh72BBAAh7sJBAAh5zXB",
  "AAh43JBAAh4zBBAAh4yDBAAh3_TBAAh38DBAAh3-fBAAh37VBAAh37dBAAh39BBAAh34LBAAh3zLBAAh27RBAAh14TBA",
  "Ah1lBBAAh0yVBAAh0kdBAAhykTBAAhx-HBAAhx3DBAAhxubBAAhxsVBAAhxrfBAAhxpBBAAhv7VBAAhtzDBAAk23WBAA",
  "k23IBAAk8wIBAAi_zJBAAi9rVBAAi9pVBAAlr3IBAAlw_UBAAmh_YBAAht5JBAAht0ViHAAj6zbBAAj61BBBAj60dCCA",
  "j60RDAAj6zdBAAj6zbBAAj9vbhHAAj6tdBAAj6tfBAAj6tNBAAj6tPBAAj6tRBAAj6tTBAAj6tPBAAj6tRBAAj6tTBAA",
  "j6tVBAAj6tTBAAj6tVBAAj6tXBAAj6tZBAAj6uHBAAj6uJBAAj6uLBAAj6uNBAAj6uFBAAj6uHBAAj6uJBAAj6uLBAAj",
  "6uZBAAj6ubBAAj6udBAAj6ufBAAj6sLBAAj6sNBAAj6sPBAAj6sRBAAj6sPBAAj6sRBAAj6sTBAAj6sVBAAj6ubBAAj6",
  "udBAAj6ufBAAj6vBBAAj6vFBAAj6vHBAAj6vJBAAj6vLBAAj6vHBAAj6vJBAAj6vLBBAj6vNCAAj6vPBAAj6vRBAAj6v",
  "TBAAj6vJBAAj6vLBAAj6vPBAAj6vRBAAj6vPBAAj6vRBAAj6vfBAAj6wBBAAj6vDBAAj6vFBAAj6vVBAAj6vXBAAj6uJ",
  "BAAj6uLBAAj6uNBAAj6uPBAAj6uFBAAj6uHBAAj6uJBAAj6uLBAAj6uFBAAj6uHBAAj6uJBAAj6uLBAAj6uRBAAj6uTB",
  "AAj6uVBAAj6uXBAAj6uHBBAj6uJCAAj6uLBAAj6uNBAAj6uPBAAj6uHBBAj6uJCAAj6uLBAAj6uNBAAj6uPBAAj6uXBA",
  "Aj6uZBAAj6ubBAAj6udBAAj6tXBBAj6tZCAAj6tbhCAAj6yLBAAj6yNBAAj6yPBAAj6yRBAAj6wfBAAj6xBBAAj6xFBA",
  "Aj6xHBAAj6xFBAAj6xHCAAj6xFBAAj6xHBAAj6xVBAAj6xXBAAj6xRBAAj6xTBAAj6xHBAAj6xJBAAj6xLBAAj6xNBAA",
  "j65dBAAj65fTAAj6yfBAAj6zBBAAj6zDBAAj6zFwRAAj--HBAAjngfCBAj-9RCAAj-_HBAAj-9NBBAjngBaAAjvhZBAA",
  "jvhdBAAj-9HBAAj-9JBBAj_gZCAAj-7XBAAj-7VBBAjniJCBAjniVCBAjnjFCBAjnjNCDAjnjJGAAj--XBAAj--VFAAj",
  "--bBAAj--dBAAj--fBAAj_iHBAAjnkfDAAj_hRBAAj_hVBAAj_hNBAAj_jLBAAjvkHBBAj_jBCAAj-9fBAAj-9dBBAjn",
  "kRCAAj_jXBAAj_jTBBAj_jNCAAj_jLBAAj_iPBAAj_iNBAAj_iRCAAj_gXBBAj_kJCAAj_iVVBAj8ldCBAj8lfCBAj8m",
  "BCBAj8mDCBAj8mFCAAj8mHBAAj8mJBBAj8mLCBAj8mNCAAj8mPBAAj8mRBBAj8mTCBAj8mVCAAj8mXBAAj8mZBBAj8mb",
  "CAAj8mdBAAj8mfBBAj8nBCAAj8nDBAAj8nFBBAj8nHCAAj8nJBAAj8nLBBAj8nNCAAj8nPBAAj8nRBBAj8nTCBAj8nVC",
  "BAj8nXCBAj8nZCBAj8nbCAAj8ndBAAj8nfBBAj8oBCAAj8oDBAAj8oFBBAj8oHCAAj8oJBAAj8oLBBAj8oNCAAj8oPBA",
  "Aj8oRBBAj8oTCAAj8oVBAAj8oXBBAj8oZCAAj8obBAAj8odBBAj8ofCAAj8pBBAAj8pDBBAj8pFCAAj8pHBAAj8pJBAA",
  "j8pLBAAj8ofBAAj8pBBAAj8pDBBAj8pFCAAj8pHBAAj8pJBBAj8pLCAAj8pNBAAj8pPBBAj8pRCAAj8pTBAAj8pVBBAj",
  "8pXCAAj8pZBAAj8pbBBAj8pdCAAj8pfBAAj8qBBBAj8qDCAAj8qFBAAj8qHBBAj8qJCBAj8qLCBAj8qNCAAj8qPBAAj8",
  "qRBAAj8qTNfAj_tfhAZAj_rfahDAj_tfhEBAjq9TCAAj_zFBBAjn1LCAAjn2FBAAjnmTBAAjnnHBAAjnsLBAAjnsJBAA",
  "jnsHBAAjnsFBAAjnsDBAAjnoRBAAjnoPBAAjnoNBAAjnqXBAAjnnHBAAjnsdBAAjnsbBAAjnsZBAAjnsXBBAjnsVCAAj",
  "nsTBAAjnsRBAAjnsPBAAjnsNBAAjnsLBAAjnsJBAAjnsHBAAjnsFBAAjnsDBAAjnsBBAAjnrfBAAjnrbBAAjnrZBAAjn",
  "rXBFAjnrVGAAjnrRBAAjnrNBAAjnrJBAAjnrFBEAjnrBFAAjnqfBAAjnqdBFAjnqbGAAjnqZBAAjnqTBBAjnwJDBAj3q",
  "BCAAj2_RBAAj3qDBBAj2_RCCAj3qHDFAj2_TGAAj3pLBCAj3qVDAAj3pFBJAj3qXNFAj3mBIFAj3mFIFAj3mJICAj3mN",
  "GBAj_zbCAAj_zLCAAj_zbBAAj_zfBAAjvzZCAAjtuLBDAjvlREAAjtkZBAAjtiFhgShHAiQlQhDAiQmAKAiOMOAiOQGA",
  "iOIBAiOvNBAkirBCAAkjpZBAAkiuVBAAkizDCAAkiuHBAAhuiDBAAkiuHBAAkiuLBBAkizJCAAj0_XBAAkizLBAAkizB",
  "BAAkiuNBAAkiyZBAAkiyfBAAkizFBAAkivRBAAkjmbBAAkivTBAAkiyfBAAkixHBBAkiudCAAkiydBAAjr2QBAAhwgdB",
  "AAkiyfBAAjr2MBAAkixDBAAjr2KBAAkjqTBBAkiyZCAAkjzHBAAkiyXBAAjr2CBBAkiyVCAAkiyTBAAkiwFBAAkiwLBA",
  "AhukLBAAkiwNBAAkiyNBAAjtzdCAAkiyFBBAkixDCAAkixZBCAki_LDAAjr1CBAAjr2IBAAkizHhmFhSAkAmQVAiAi6Q",
  "fAiA1tAfAiAjAYAhW3xWZAnmnJaJAnmrfh4QZAnp5daZAnp7RaZAnp9FaGAnp-ZIRAnp-ZSZAnqgNaZAnqiBaBBnqjVD",
  "AAnqjVDAAnqjVDBAnqjVEDAnqjVFHAnqjVIDAnqlJFBBnqlJDFAnqlJHKAnqlJLZAnqmdaZAnqoRaBAnqqFDDAnqqFGH",
  "AnqqFJGAnqqFIZAnqrZaBAnqtNDDAnqtNFEAnqtNGAAnqtNEGAnqtNIZAnqvBaZAnqwVaZAnqyJaZAnqzdaZAnq1RaZA",
  "nq3FaZAnq4ZaZAnq6NaZAnq8BaZAnq9VaZAnq_JaZAnrgdaZAnriRaAAnq3FBAAnqmbDQAnpvNRAAnpwBBGAnpvNHAAm",
  "6rTBQAnpxBRAAnpwfBGAnpxBHAAm6tRBAAnpyNBAAnpyJBAAnpyHBAAnpxRBAAnpxdBAAnpyBBQAnpzBRAAnpzVBGAnp",
  "zBHAAm6vHBQAnp0VRAAnp0TBGAnp0VHAAm6xFBAAnp2BBAAnp1dBAAnp1bBAAnp1FBAAnp1RBAAnp1VBQAnp2VRAAnp3",
  "JBGAnp2VHAAm6ybBQAnp4JRAAnp4HBGAnp4JHAAm60ZBAAnp5VBAAnp5RBAAnp5PBAAnp4ZBAAnp5FBAAnp5JBQAnp6J",
  "RAAnp6dBGAnp6JHAAm62PBQAnp7dRAAnp7bBGAnp7dHAAm64NBAAnp9JBAAnp9FBAAnp9DBAAnp8NBAAnp8ZBAAnp8dB",
  "QAnp9dRAAnp-RBGAnp9dHAAm66DBQAnp_RRAAnp_PBGAnp_RHAAm68BBAAnqgdBAAnqgZBAAnqgXBAAnqgBBAAnqgNBA",
  "AnqgRBAAnp-ZBAAnp-bDJAnr5bKJAnr6PKJAnr7DKJAnr7XKJAnr8Lh-aAAnu2ZhDAAnuiVhdIAnt_fJCAnt_dDKAnt_",
  "bLAAnt_XBBAnt_VCAAk88BBAAnt3DBAAnt_LBAAnt_JBAAnt2JBAAnt5fBAAnt4BBIAnuiBJBAnuhfCBAnuhbCAAnuhZ",
  "BFAnuhXGBAnuhVCAAnt9LBAAnuhDBAAnuhHBAAnugVBAAnt7fBAAk9hVBAAnt7XikThBAiEhoABAnz9RCAAnz9LBAAnz",
  "9HCAAnz7ZBAAnz9HBAAnz9TBAAnz9BBAAnz7dBDAnz8NEAAnz9VBAAnz9LBAAnz8dBAAnz9XBAAnz8fBAAnz-DBAAnz9",
  "fBBAnz-VCAAnz-RBAAnz-PBAAnz-FBAAnz-DBAAnz-BBAAnz6bBAAnz2FBAAnz3ZBAAnz6fCAAnz_RBAAnz_LCAAnz9Z",
  "DAAnz_TCAAnz9dBDAnz-NEAAnz_VBAAnz_LBAAnz-dBAAnz_XBAAnz-fCAAnz_fBBAn0gVCAAn0gRCAAn0gFCAAn0gBH",
  "AAn0hLFAAn0hTCAAnz_dCBBn0gNDAAn0hVBAAn0hLCAAn0hXBAAn0gfCAAn0hfDAAn0iRCAAn0iFCAAn0iBCAAnz6FCA",
  "Anz-fCAAn0jRBAAn0jLCAAn0hZDAAn0jTBAAn0jBBAAn0hdBBBn0iNDAAn0iNBAAn0jVBAAn0jLBAAn0idBAAn0jXBAA",
  "n0ifCAAn0jfBBAn0kVCAAn0kRCAAn0kFBAAn0kDBAAn0kBBAAn0gbCAAnz9ZCBAn0lRCAAn0lLBAAn0lHBBAn0jZCAAn",
  "0lHBAAn0lTBAAn0lBBAAn0jdCCAn0kNDAAn0lVBAAn0lLBAAn0kdBAAn0lXBAAn0kfBAAn0mDBAAn0lfBBAn0mVCAAn0",
  "mRBAAn0mPBAAn0mFBAAn0mDBAAn0mBGAAn0nRBAAn0nLBAAn0nHCAAn0lZBAAn0nHBAAn0nTBAAn0nBBAAn0ldCCAn0m",
  "NDAAn0nVBAAn0nLBAAn0mdBAAn0nXBAAn0mfBAAn0oDBAAn0nfBBAn0oVCAAn0oRBAAn0oPBAAn0oFBAAn0oDBAAn0oB",
  "zQAAn4sPBAAn4rTEZAn4sdmSAAng0ZOAAmn8JBAAmrrTBAAmvkLBAAng0XBAAmx4PBAAmsvVBAAl0jFBAAmsubBAAmx3",
  "HBAAml_RBAAmgvRBAAmmoDBAAmv8dBAAmppBBAAmwpBBAAmmmdBAAmwgFBAAl6tdBAAl-wFBAAly3TBAAmszHBAAmu-X",
  "BAAmhxDBAAmn5DBAAmntFBAAmyiRBAAmyiBBAAlw-BBAAmqkLBAAmx_fBAAmvjVBAAmnyPBAAlyrfBAAmn9bBAAl8rBB",
  "AAl77RBAAmviXBAAmh7JBAAmlyZBAAmlydBAAl-wJBAAmv8NBAAmuoHBAAlwubVAAmprRBAAmvmDisfJAn97fh_gQAAq",
  "08FBAAq08RBAAq08BBAAj7uBBAAq0qHBAAq0lNBAAq0kVBAAq0gJBAAqz4bBAAqz2fBAAqzyFBAAqzzXBAArh2bBAAj4",
  "9FBAAqzsBBAAqzrVBAAqzqXBAAqzpTBAAj5vLBAArh1TBAAqzqZBAAqzoPBAAj5sVBAAqznfBAAqznHBAAq00ZBAAqzm",
  "bBAAqzmLBAAhzjZBAAqziPBAAqzhVBAArhzfBAAqy-JBAAqy9VBAAqy6fBAAqy6XBAArhwdBAAqy1bBAAqy1ZBAAqy0F",
  "BAAqyybBBAqyyHCAAqyxHBAAqyuFBAAqytXBAAqytHBAAqyrXBAAqyrFBAAqyrDBAAqyrFBAAqyrHBAAj3gPBAAqj8JB",
  "AAqymXBAAqylPBAAj2tJBAAqykbBAAqykRBAAqyjJBAAqx5bBAAqygJBAAqx_LBAAqx9NBAAqx5bBAAqx0VBAAqxzDBA",
  "AqxufBAAqxuBBAAqxsBBAAqxsDBAAqxqbBAAqxpZBAAqxpLBAAqxoPBAAqwzJBAAqxkLBAAqwzLBAAqw_ZBAAqw9VBAA",
  "qzkRBAAqv2FBAAqwoHBAAqwldBAAqwkNBAAqwsTBAAqwiHBAAqwiLBAAqv6XBAAjx3JBAAqv2PBAAqv2HBAAqv1LBAAq",
  "v0FBAAqvzXBAAqvvZBAAjw7PBAAjw3NBAAqvnLBAAqvkPBAAqvjZBAAqvoZBAAqu_fBAArg3RBAArg2XBAAqu2BBAAqu",
  "yXBAAquyZBAAjvqHBAAquqTBAAqupLBAAquoPBAAqunZBAAju1RBAAqunFBAAqumZBAAqsyBBAAqulFBAArgvJBAAquh",
  "NBAAqugTBAAqt7RBAAqt-ZBAAjtpNBAAqtzRBAAjtpNBAAqtwfBAAqtxHBAAqtwHBBAqtpfCAArglHBAAqtoNBAAqtlZ",
  "BAAqtkRBAAqthbBAArgiLBAAjrwLBAArggbBAAqs9VBAAqs9RBAAqs9NBAAqs8HBAAhqvZBAAqs5DBAAjq1fBAAjq2BB",
  "AAp7pDBAAqs3DBAAqs3FBAAq_8dBAAji9dBAAirrbBAAqszNBAAqsydBAAq_7PBAAqswDBAAqssfBAAqssNBAAqsqLBA",
  "AqshdBAAq_2NBAAq_4LBAAqsgdBAAjo8fBAAqr9bBAAqr1bBAAqr1VBAAqr1TBAAqr1ZBAAqryfBAAqrxZBAAqrvTBAA",
  "qrwRBAAqrvdBAAqrtBBAAqrrbBAAqrrVBAAqrqDBAAqrpPBAAqrlNBAAqrgHBAAqq-DBAAqq2NBAAjm6XBAAqq3XBAAq",
  "q7bBAAqq1FBAAqqzRBAAqqtRBAAjmsZBAAqqpZBAAqqvVBAAqqxPBAAq_pHBAAqqlTBAAqqkLBAAqqiPBAAqqkdBAAq_",
  "lVBAAqp3RBAAqp1ZBAAjkrfBAAqpuPBAAqo9HBAAqpoHBAAq-7JBAAqpjbBAAq-8PBAAq--ZBAAqzzfBAAqzzbBAAqo9",
  "HBAAqpjRBAAp8iRBAAq6vbBAAqo8BBAAqo7bBAAqo7RBAAqo3ZBAAqo4RBAAjixTBAAq-5JBAAqouJBAAqo1VBAAqood",
  "BAAqolZBAAjinLBAAqolLBAAqosLBAAqn9DBAAq-0TBAAqn6LBAAqn0LBAAqnvfBAAqnkFBAAjhkRBAAqnhDBAAq-tLB",
  "AAqm8bBAAjgkRBAAqm5ZBAAq-qHBAAqm4BBAAqm1JBBAqmzVCAAi_mTBAAjt-ZBAAi-_dBAAqmqXBAAi-jdBAAqmjZBA",
  "AqmifBAAqmpNBAAql-RBAAql8DBAAql4TBAAql8BBAAql5TBAAql4XBAAql3fBAAi9-PBAAql9FBAAqltRBAAqlpVBAA",
  "q99NBAAqljfBAAqlkJBAAi9jXBAAqlxJBAAqk6BBAAi87DBAAi84FBAAqk0XBAAqktTBAAqkvLBAAqkvTBAAq93fBAAq",
  "ksZBAAqkpVBAAqkqDBAAqkmZBAAj5_LBAAqj9NBAAi7rTBAAqj4DBAAi63HBAAqjvPBAAqjuXBAAqjtDBAAi5xVBAAqj",
  "qHBAAqjofBAAi4_BBAAi4xFBAAqi6bBAAqi5bBAAq9nbBAAqi4LBAAq9nHBAAq9nJBAAqiuNBAAqitFBAAqirdBAAqiq",
  "XBAAqimPBAAq9hPBAAqigfBAAi2vdBAAqh_PBAAi2qJBAAqh8PBAAjr5TBAAqhyTBAAi05TBAAi04HBAAi0vRBAAq80D",
  "BAAq8zNBAAqhkXBAAi0kbBAAi0kfBAAi0iTBAAi0hBBBAqhiNCAAqhiPBAAqg_bBAAq8wfBAAqg7dBAAq8wJBAAq8rLB",
  "AAiyyfBAAqgvfBAAqgsFBAAqgoHBAAq8mbBAAixyXBAAp__ZBAAixrTBAAixofBAAp_8NBAAp_2XBAAq8iRBAAp_xRBA",
  "Ap_wfBAAp_wXBAAiv9fBAAivrLBAAivrNBAAp_nBBAAq71bBAAiu7LBAAp-5XBAAp-5TBAAq7zZBAAiuuJBAAp-pHBAA",
  "q7sNBAAp-nfBAAp-oLBAAp-mTBAAis-JBAAp-gRBAAq7mXBAAp96NBAAp92ZBAAp9yVBAAq7jZBAAir0TBAAiryXBAAq",
  "7hVBAAirpXBAAp8_XBAAirjRBAAp8-FBAAp83dBAAp83JBAAiqqBBAAiqlRBAAp8xZBAAip9LBAAp8wdBAAjjiBBAAq6",
  "6XBAAp8sfBAAp8nfBAAq63RBAAp8kNBAAqvtBBAAio9fBAAio9FBAAji_LBAAji-bBAAp74TBAAp74PBAAp0-dBAAq6y",
  "FBAAp7vbBAAp7wJBAAp7vHBAAqztdBAAp7uDBAAp7uBBAAp7tPBAAp7qfBAAinlVBAAp7rFBAAp7nXBAAp7jNBAAp6-b",
  "BAAp7nRBAAp69fBAAp67NBAAp60PBAAp7kZBAAp69NBAAp69LBAAp68NBAAim2bBAAimjTBAAimtBBAAq6nXBAAp6rNB",
  "AAp6rLBAAp6pHBAAii-BBAAp6kPBAAiloBBAAq6lBBAAq6kbBAAik_dBAAiktdBAAq6kNBAAp52FBAAp51PBAAp50bBA",
  "Ap50ZBAAp5wbBAAp5yfBAAp5qVBAAp5tPBAAp5kDBAAp5pHBAAp5lDBAAp5jPBAAq5-PBAAp49dBAAp47fBAAq58RBAA",
  "p42FBAAp42BBAAih1bBAAp4udBAAp4uRBAAq55FBAAp4sdBAAriwdBAAigxZBAAigmLBAAq5wdBAAq5wNBAAp3ydBAAp",
  "3uFBAAp3kNBAAp23ZBAAh-yVBAAp2yRBAAp2xHBAAp2rVBAAp2lfBAAh9qRBAAj49JBAAp2gdBAAp2hdBAAp1-XBAAj4",
  "vdBAAp1wTBAAp1qNBAAh6gbBAAh5_HBAAp00bBAAp0vDBAAp0tFBAAh5rNBAAp0sVBAApz6dBBApzxBCAApz2bBAApy_",
  "DBAApy9NBAAh2_FBAApymFBAAq4lTBAApyjRBAAh2nTBAAq4gXBAApxyfBAAqukDBAApxtDBAAh0rBBAAhz9ZBAAq34T",
  "BAAq34FBAApxhTBAAhy_BBAAq30TBAAhy2NBAApw_FBAApw_HBAApw9NBAAhykVBAApwxfBAAq3sfBAApwtVBAApwlbB",
  "AApwkHBAApwgRBAAq3jTBAAhvtRBAApvvPBAApu8VBAApuwdBAAq2zdBAAq2yBBAApuqPBAAhs0DBAAq2xRBAAhswZBA",
  "AhsgJBAAhr4FBAApt1TBAAq2rfBAAptxbBAAptxTBAAptxHBAAptwVBAAptwJBAAptuBBAAhqhZ"]

/-- Characters mapped to several: a gap after the last one, a length, the characters. -/
def expandedLines : List String := [
  "lIChA4IHChA4EFChA4BEChA5HEDhRoiEhUBDhRoiEhSBDhToiEhUjSCjJ4HCCjJjKBCjJjKMCjMlXBCjMlXJC1cjOjbC",
  "jEreBCjEreBCjEreBCjMjKBCjMjKBCjMjKBCjOjKBCjOjKBCjOjKhFCjEjaBCjEjaBCjEjanFChA4GBChA4HBChA4KBC",
  "hA5IBChA4DBChA4LjHC4I4BhWChA9ZKChA4BBDhA4I4BwCChrFhsCnOChxHhzUBChyIhzUBCh2HhzUBChyKhzU3ACioV",
  "ipcBCioWipcBCioXipcBCiocipcBCipBipcBCipCipcBCipLipcBCipPipcjdCitBitcBCitCitcCCitPitciUCixSix",
  "cDCixYixchDCiwWixcBCiwXixcBCiwcixcDCixLixcneCi5Bi5cBCi5Ci5c2WCjyNjxSkACj2Nj1ShJCj1Lj0ZBCj1Lj",
  "1BjGCj6Cj9XKCj6Mj9XFCj6Rj9XFCj6Wj9XFCj6bj9XNCj6Aj9VKCj7Rj7SCCj7Rj7UBCj9Sj8ABDj9Sj7Rj8ABCj9Tj",
  "8ABDj9Tj7Rj8AICj7Rj8ASCj8Sj9XKCj8cj9XFCj9Bj9XFCj9Gj9XFCj9Lj9XNCj8Qj9Vj3BCjB1enGCn4A9ZBCn4B9Z",
  "BCn4C9ZBCn4D9ZBCn4E9ZBCn4F9ZBCn4G9ZBCn4H9ZBCn4A9ZBCn4B9ZBCn4C9ZBCn4D9ZBCn4E9ZBCn4F9ZBCn4G9ZB",
  "Cn4H9ZBCn5A9ZBCn5B9ZBCn5C9ZBCn5D9ZBCn5E9ZBCn5F9ZBCn5G9ZBCn5H9ZBCn5A9ZBCn5B9ZBCn5C9ZBCn5D9ZBC",
  "n5E9ZBCn5F9ZBCn5G9ZBCn5H9ZBCn7A9ZBCn7B9ZBCn7C9ZBCn7D9ZBCn7E9ZBCn7F9ZBCn7G9ZBCn7H9ZBCn7A9ZBCn",
  "7B9ZBCn7C9ZBCn7D9ZBCn7E9ZBCn7F9ZBCn7G9ZBCn7H9ZDCn7Q9ZBC9R9ZBC9M9ZDCn9W9ZFC9R9ZBChA4TCChA4TBC",
  "hA6CBDhA4I6CBCn7U9ZBC9X9ZBC9O9ZDCn-G9ZFC9X9ZBDhA4T4ABDhA4T4BBDhA4T6CODhA4U4ABDhA4U4BBDhA4U6C",
  "ODhA4I4ABDhA4I4BECn7c9ZBC-J9ZBC-O9ZDCn_W9ZFC-J9ZBChA4BBChA4UZChA5TcCohSohSBDohSohSohSCCohVoh",
  "VBDohVohVohVFChBhBCChA4FJChfhfBChfhBBChBhfOEohSohSohSohSiRCjSjTiYDjBhPjDBDjBhPjTCClQjDCDjDhP",
  "jPBDjDhPjVDClQjGNCjOjPKCjTjNBDjUjFjMBCjUjNZDjGjBjYVDhRoiEhXBDhRoiEhZBEhRoiEhRhQBDhRoiEhTBDhS",
  "oiEhTBDhRoiEhVBDhSoiEhVBDhToiEhVBDhUoiEhVBDhRoiEhWBDhVoiEhWBDhRoiEhYBDhToiEhYBDhVoiEhYBDhXoi",
  "EhYBChRoiECCjJjJBDjJjJjJBCjJjWCCjWjJBDjWjJjJBEjWjJjJjJBCjJjYCCjYjJBDjYjJjJGCjJjJBDjJjJjJBCjJ",
  "jWCCjWjJBDjWjJjJBEjWjJjJjJBCjJjYCCjYjJBDjYjJjJODhQoiEhTlDCoxLoxLBDoxLoxLoxLCCoxOoxOBDoxOoxOo",
  "xOxZChRhQBChRhRBChRhSBChRhTBChRhUBChRhVBChRhWBChRhXBChRhYBChRhZBChShQBDhIhRhJBDhIhShJBDhIhTh",
  "JBDhIhUhJBDhIhVhJBDhIhWhJBDhIhXhJBDhIhYhJBDhIhZhJBEhIhRhQhJBEhIhRhRhJBEhIhRhShJBEhIhRhThJBEh",
  "IhRhUhJBEhIhRhVhJBEhIhRhWhJBEhIhRhXhJBEhIhRhYhJBEhIhRhZhJBEhIhShQhJVDhIjBhJBDhIjChJBDhIjDhJB",
  "DhIjEhJBDhIjFhJBDhIjGhJBDhIjHhJBDhIjIhJBDhIjJhJBDhIjKhJBDhIjLhJBDhIjMhJBDhIjNhJBDhIjOhJBDhIj",
  "PhJBDhIjQhJBDhIjRhJBDhIjShJBDhIjThJBDhIjUhJBDhIjVhJBDhIjWhJBDhIjXhJBDhIjYhJBDhIjZhJBDhIjahJh",
  "qXEoxLoxLoxLoxLjIDhahahdBChdhdBDhdhdhdjGCq2d5YhtfChAskZBChAskaDCskIskKjACslTsmIoBDhIkoAhJBDh",
  "IkoChJBDhIkoDhJBDhIkoFhJBDhIkoGhJBDhIkoHhJBDhIkoJhJBDhIkoLhJBDhIkoMhJBDhIkoOhJBDhIkoPhJBDhIk",
  "oQhJBDhIkoRhJBDhIkoShJBDhIhrgAhJBDhIhskYhJBDhIhs3EhJBDhIht7chJBDhIhuuIhJBDhIhvgUhJBDhIhwlMhJ",
  "BDhIhxqEhJBDhIhx8QhJBDhIhzhIhJBDhIhzzUhJBDhIh0mAhJBDhIh04MhJBDhIh1qYhJBDhIhynchJBEhIhxxEhygE",
  "hJBEhIhxxEh12EhJCDhIzwAhJBDhIz0MhJBDhIzwJhJBDhI12bhJBDhIz0UhJBDhI0rNhJBDhIzwDhJBDhI0rLhJBDhI",
  "zydhJBDhI06BhJBDhI54IhJBDhI8jLhJBDhI7hUhJBDhI55IhJBDhIhkuRhJBDhI14fhJBDhI5vFhJBDhI6hKhJBDhI5",
  "4JhJBDhI-pehJBDhI1gNhJBDhI8zZhJBDhIhjlBhJBDhI-qdhJBDhI01UhJBDhIz3DhJBDhI1jchJBDhI27GhJBDhI93",
  "DhJBDhIz4BhJBDhIhjmHhJBDhI06UhJBDhI-rNhJBDhIz4RhJBDhIhgvKhJBDhIhgvThJNDjQjUjFBChShRBChShSBCh",
  "ShTBChShUBChShVBChShWBChShXBChShYBChShZBChThQBChThRBChThSBChThTBChThUBChThVdChzhYhrnABChynch",
  "x6YhUChThWBChThXBChThYBChThZBChUhQBChUhRBChUhSBChUhTBChUhUBChUhVBChUhWBChUhXBChUhYBChUhZBChV",
  "hQBChR54IBChS54IBChT54IBChU54IBChV54IBChW54IBChX54IBChY54IBChZ54IBDhRhQ54IBDhRhR54IBDhRhS54I",
  "BCjIjHBDjFjSjHBCjFjWBDjMjUjEhQCz3E1kMBEslCsmRsncsmIBEslCsnLsmVslBBEslCsnTsmaslCBDslCsncsnLBE",
  "slEsmLsnTslQBDslEsnTsmBBDslGslJsnTBFslIslZslPsncsmJBEslIsncslLsncBDslKsnTslZBDslKsncsnABDslL",
  "slEsnKBEslLsnJsmDsmIBEslLsnNsnKsncBDslMsnNsnTBDslMsnTsmeBCslOslMBDslOsmLsncBEslNsnFsnKsncBEs",
  "lOsnLsmAsncBCslNsnNBFslNsnNslQsnJsnABGslNsnNsnBsncsmIsnLBFslNsnNsnPsmDsmIBDslQsnJsnABFslQsnJ",
  "snAsmIsnTBFslPsnLslcslEsnNBEslPsnNsncsmNBDslRsncslZBDslTsnLsmKBDslTsncsmdBEslVslEslPsnLBFslV",
  "snTsmBsncsnABEslXsnKsnTslQBDslbsnTsmBBDslbsnTsmIBDsmAsncslZBCsmHslXBCsmJsnLBCsmIsnTBCsmKsmOB",
  "DsmOsmDsmIBDsmPslEsmEBFsmRsncslbsnTsmIBDsmRsncsmEBEsmQsncsnMsnLBFsmUslCslZsmIsnLBDsmUslPsnLB",
  "CsmUslTBCsmTsnLBFsmVslBsnJsmDsmJBEsmVslDsncsmIBFsmWsmDslXslHsnLBDsmVsnJsnTBFsmYslPslfsncsnLB",
  "CsmasldBDsmasmLsmSBDsmYsnLsmEBDsmasnTslZBDsmasncslYBDsmZsncslfBEsmdslEsnTsmIBDsmcsnLsmIBCsmb",
  "snTBDsmdsnTsmJBDsmbsncsnLBDsmbsncsnTBEsmeslEslPsnNBDsmeslEsnLBDsmesmDsmPBDsmesnLslPBFsmesnTs",
  "lXsnHsnTBEsmfslPsnNsnTBCsmfsnKBFsmfsnKsmQsncsnLBCsnBslMBEsnBslMsmIsnTBEsnBsncsmIsnLBDsnEsncs",
  "mJBDsnEsncsnLBDsnGslCsnTBEsnKsmDsmIsnLBCsnKsnJBDsnLsmUsncBEsnLsncsmWsnLBCsnMsnABFsnMsnTsmIsl",
  "SsnTBDsnPsmDsmIBChQ8lZBChR8lZBChS8lZBChT8lZBChU8lZBChV8lZBChW8lZBChX8lZBChY8lZBChZ8lZBDhRhQ8",
  "lZBDhRhR8lZBDhRhS8lZBDhRhT8lZBDhRhU8lZBDhRhV8lZBDhRhW8lZBDhRhX8lZBDhRhY8lZBDhRhZ8lZBDhShQ8lZ",
  "BDhShR8lZBDhShS8lZBDhShT8lZBDhShU8lZBDjIjQjBBCjEjBBCjBjVBDjCjBjSBCjPjWBCjQjDBCjEjNBDjEjNhSBD",
  "jEjNhTBCjJjVBC3zT4wQBC5xN1kMBC2pH67DBC5wO7lbBE6hK34Pz4a-peBCjQjBBCjOjBBC9cjBBCjNjBBCjLjBBCjL",
  "jCBCjNjCBCjHjCBDjDjBjMBEjLjDjBjMBCjQjGBCjOjGBC9cjGBC9cjHBCjNjHBCjLjHBCjIjaBDjLjIjaBDjNjIjaBD",
  "jHjIjaBDjUjIjaBC9cjMBCjNjMBCjEjMBCjLjMBCjGjNBCjOjNBC9cjNBCjNjNBCjDjNBCjLjNBDjNjNhSBDjDjNhSBC",
  "jNhSBDjLjNhSBDjNjNhTBDjDjNhTBCjNhTBDjLjNhTBDjNowVjTBEjNowVjThSBCjQjBBDjLjQjBBDjNjQjBBDjHjQjB",
  "BDjSjBjEBFjSjBjEowVjTBGjSjBjEowVjThSBCjQjTBCjOjTBC9cjTBCjNjTBCjQjWBCjOjWBC9cjWBCjNjWBCjLjWBC",
  "jNjWBCjQjXBCjOjXBC9cjXBCjNjXBCjLjXBCjNjXBCjL-JBCjN-JCCjCjRBCjDjDBCjDjEBEjDowVjLjHCCjEjCBCjHj",
  "ZBCjIjBBCjIjQBCjJjOBCjLjLBCjLjNBCjLjUBCjMjNBCjMjOBDjMjPjHBCjMjYBCjNjCBDjNjJjMBDjNjPjMBCjQjIC",
  "DjQjQjNBCjQjSBCjTjSBCjTjWBCjXjCBDjWowVjNBDjBowVjNBChR5vFBChS5vFBChT5vFBChU5vFBChV5vFBChW5vFB",
  "ChX5vFBChY5vFBChZ5vFBDhRhQ5vFBDhRhR5vFBDhRhS5vFBDhRhT5vFBDhRhU5vFBDhRhV5vFBDhRhW5vFBDhRhX5vF",
  "BDhRhY5vFBDhRhZ5vFBDhShQ5vFBDhShR5vFBDhShS5vFBDhShT5vFBDhShU5vFBDhShV5vFBDhShW5vFBDhShX5vFBD",
  "hShY5vFBDhShZ5vFBDhThQ5vFBDhThR5vFBDjHjBjMhx4BCjGjGBCjGjJBCjGjMBDjGjGjJBDjGjGjMBCjTjUBCjTjUN",
  "ChrUhrWBChrUhrFBChrUhrLBChrehrWBChrUhrNGChuZhtUCChvShtXLChvJhuBBChvJhuCBDhvJhtchuBBDhvJhtchu",
  "CBChuQhtXBChuQhtYBChuQhtcBChuRhtcBChuShtcBChuThtcBChuUhtcBChuVhtcBChuWhtcCChuYhtcBChuZhtcBCh",
  "uahtcBChubhtcBChuchtcCChuehtcCChvAhtcBChvBhtcCChvDhtcBChvEhtcCChvGhtcBChvHhtcBChvIhtcBChvJht",
  "cBChvKhtcBChuVhtZBChuRhtfBChubhtfBChvEhtfBChuQhuckOCh2HhzUNChxGhxHBChxGhxHBChxGh2VBChxGh2VBC",
  "hxGhyIBChxGhyIBChxGh2HBChxGh2HBChxGh2GBChxGh2GBChxGh2IBChxGh2IBChxGh2QBChxGh2QBChxGh2QBChxGh",
  "yJBChxGhyJBChxGhyJFChxGhxMBChxGhxNBChxGhyFBChxGhyJBChxGhyKBChxIhxMBChxIhxNBChxIhxOBChxIhyFBC",
  "hxIhyJBChxIhyKBChxKhxMBChxKhxNBChxKhxOBChxKhyFBChxKhyJBChxKhyKBChxLhxMBChxLhyFBChxLhyJBChxLh",
  "yKBChxMhxNBChxMhyFBChxNhxMBChxNhyFBChxOhxMBChxOhxNBChxOhyFBChxThxMBChxThxNBChxThxOBChxThyFBC",
  "hxVhxNBChxVhyFBChxWhxMBChxWhxNBChxWhxOBChxWhyFBChxXhxNBChxXhyFBChxYhyFBChxZhxMBChxZhyFBChxah",
  "xMBChxahyFBChyBhxMBChyBhxNBChyBhxOBChyBhyFBChyBhyJBChyBhyKBChyChxNBChyChyFBChyChyJBChyChyKBC",
  "hyDhxHBChyDhxMBChyDhxNBChyDhxOBChyDhyEBChyDhyFBChyDhyJBChyDhyKBChyEhxMBChyEhxNBChyEhxOBChyEh",
  "yFBChyEhyJBChyEhyKBChyFhxMBChyFhxNBChyFhxOBChyFhyFBChyFhyJBChyFhyKBChyGhxMBChyGhxNBChyGhxOBC",
  "hyGhyFBChyGhyJBChyGhyKBChyHhxMBChyHhyFBChyHhyJBChyHhyKBChyKhxMBChyKhxNBChyKhxOBChyKhyFBChyKh",
  "yJBChyKhyKBChxQhzQBChxRhzQBChyJhzQBDhAhyMhyRBDhAhyNhyRBDhAhyOhyRBDhAhyPhyRBDhAhyQhyRBDhAhyRh",
  "zQBChxGhxRBChxGhxSBChxGhyFBChxGhyGBChxGhyJBChxGhyKBChxIhxRBChxIhxSBChxIhyFBChxIhyGBChxIhyJBC",
  "hxIhyKBChxKhxRBChxKhxSBChxKhyFBChxKhyGBChxKhyJBChxKhyKBChxLhxRBChxLhxSBChxLhyFBChxLhyGBChxLh",
  "yJBChxLhyKBChyBhyJBChyBhyKBChyChyJBChyChyKBChyDhxHBChyDhyEBChyDhyFBChyDhyJBChyDhyKBChyEhyFBC",
  "hyEhyJBChyEhyKBChyFhxHBChyFhyFBChyGhxRBChyGhxSBChyGhyFBChyGhyGBChyGhyJBChyGhyKBChyJhzQBChyKh",
  "xRBChyKhxSBChyKhyFBChyKhyGBChyKhyJBChyKhyKBChxGhxMBChxGhxNBChxGhxOBChxGhyFBChxGhyHBChxIhxMBC",
  "hxIhxNBChxIhxOBChxIhyFBChxIhyHBChxKhxMBChxKhxNBChxKhxOBChxKhyFBChxKhyHBChxLhyFBChxMhxNBChxMh",
  "yFBChxNhxMBChxNhyFBChxOhxMBChxOhyFBChxThxMBChxThxNBChxThxOBChxThyFBChxVhxNBChxVhxOBChxVhyFBC",
  "hxWhxMBChxWhxNBChxWhxOBChxWhyFBChxXhxNBChxYhyFBChxZhxMBChxZhyFBChxahxMBChxahyFBChyBhxMBChyBh",
  "xNBChyBhxOBChyBhyFBChyChxNBChyChyFBChyDhxMBChyDhxNBChyDhxOBChyDhyEBChyDhyFBChyEhxMBChyEhxNBC",
  "hyEhxOBChyEhyFBChyEhyHBChyFhxMBChyFhxNBChyFhxOBChyFhyFBChyGhxMBChyGhxNBChyGhxOBChyGhyFBChyGh",
  "yHBChyHhxMBChyHhyFBChyHhzQBChyKhxMBChyKhxNBChyKhxOBChyKhyFBChyKhyHBChxGhyFBChxGhyHBChxIhyFBC",
  "hxIhyHBChxKhyFBChxKhyHBChxLhyFBChxLhyHBChxThyFBChxThyHBChxUhyFBChxUhyHBChyDhyEBChyDhyFBChyEh",
  "yFBChyGhyFBChyGhyHBChyKhyFBChyKhyHBDhyAhyOhyRBDhyAhyPhyRBDhyAhyQhyRBChxXhyJBChxXhyKBChxZhyJB",
  "ChxZhyKBChxahyJBChxahyKBChxThyJBChxThyKBChxUhyJBChxUhyKBChxNhyJBChxNhyKBChxMhyJBChxMhyKBChxO",
  "hyJBChxOhyKBChxVhyJBChxVhyKBChxWhyJBChxWhyKBChxUhxMBChxUhxNBChxUhxOBChxUhyFBChxUhxRBChxThxRB",
  "ChxVhxRBChxWhxRBChxXhyJBChxXhyKBChxZhyJBChxZhyKBChxahyJBChxahyKBChxThyJBChxThyKBChxUhyJBChxU",
  "hyKBChxNhyJBChxNhyKBChxMhyJBChxMhyKBChxOhyJBChxOhyKBChxVhyJBChxVhyKBChxWhyJBChxWhyKBChxUhxMB",
  "ChxUhxNBChxUhxOBChxUhyFBChxUhxRBChxThxRBChxVhxRBChxWhxRBChxUhxMBChxUhxNBChxUhxOBChxUhyFBChxT",
  "hyHBChxUhyHBChxXhyFBChxThxMBChxThxNBChxThxOBChxUhxMBChxUhxNBChxUhxOBChxXhyFBChxYhyFBChxHhyLB",
  "ChxHhyLTDhxKhxMhyFBDhxKhxNhxMBDhxKhxNhxMBDhxKhxNhyFBDhxKhxOhyFBDhxKhyFhxMBDhxKhyFhxNBDhxKhyF",
  "hxOBDhxMhyFhxNBDhxMhyFhxNBDhxNhyFhyKBDhxNhyFhyJBDhxThxNhxMBDhxThxMhxNBDhxThxMhyJBDhxThyFhxNB",
  "DhxThyFhxNBDhxThyFhxMBDhxThyFhyFBDhxThyFhyFBDhxVhxNhxNBDhxVhxNhxNBDhxVhyFhyFBDhxUhxNhyFBDhxU",
  "hxNhyFBDhxUhxMhyKBDhxUhyFhxOBDhxUhyFhxOBDhxUhyFhyFBDhxUhyFhyFBDhxWhxNhyJBDhxWhxOhyFBDhxWhxOh",
  "yFBDhxXhyFhxNBDhxXhyFhxNBDhxXhyFhyFBDhxXhyFhyKBDhxZhxMhyFBDhxZhyFhyFBDhxZhyFhyFBDhxZhyFhyJBD",
  "hxahyFhyFBDhxahyFhyKBDhxahyFhyJBDhyBhxOhyFBDhyBhxOhyFBDhyChyFhxNBDhyChyFhyFBDhyEhxNhyFBDhyEh",
  "xNhyKBDhyEhxNhyJBDhyEhxMhxMBDhyEhxMhxMBDhyEhxOhyFBDhyEhxOhyFBDhyEhyFhxNBDhyEhyFhxNBDhyFhxNhx",
  "MBDhyFhxNhyFBDhyFhxNhyKBDhyFhxMhxNBDhyFhxMhyFBDhyFhxOhxMBDhyFhxOhyFDDhyFhxMhxOBDhyHhyFhxMBDh",
  "yHhyFhyFBDhyGhxNhyFBDhyGhxNhyJBDhyGhxMhyFBDhyGhxMhyFBDhyGhxMhyJBDhyGhyFhyKBDhyGhyFhyJBDhyKhy",
  "FhyFBDhyKhyFhyFBDhxIhxOhyKBDhxKhxMhyKBDhxKhxMhyJBDhxKhxOhyKBDhxKhxOhyJBDhxKhyFhyKBDhxKhyFhyJ",
  "BDhxMhyFhyKBDhxMhxNhyJBDhxMhyFhyJBDhxThxOhyJBDhxVhxNhyKBDhxUhxNhyKBDhxWhxNhyKBDhyEhxMhyKBDhy",
  "EhyFhyKBDhyKhxNhyKBDhyKhxMhyKBDhyKhyFhyKBDhyFhyFhyKBDhyChyFhyKBDhyGhxNhyKBDhyChyFhxNBDhyEhxN",
  "hyFBDhxZhyFhyKBDhyDhyFhyKBDhyGhxMhxNBDhyFhxOhyKBDhyEhxMhyFBDhyDhyFhyFBDhyEhxMhyFBDhyGhxMhxNB",
  "DhxMhxNhyKBDhxNhxMhyKBDhyFhxMhyKBDhyBhyFhyKBDhxIhxNhyKBDhyDhyFhyFBDhxZhxMhyFBDhxVhyFhyFBDhxT",
  "hxOhyKBDhyGhxMhyKhJDhxVhyEh2SBDhyChyEh2SBEhxHhyEhyEhyHBEhxHhyDhxIhxRBEhyFhxNhyFhxPBEhxVhyEhx",
  "ZhyFBEhxRhxThyIhyEBEhxZhyEhyKhyHBEhyIhxThyEhyFBDhxVhyEhyJBShxVhyEhyJhAhxHhyEhyEhyHhAhxZhyEhy",
  "KhyHhAhyIhxThyEhyFBIhxMhyEhAhxMhyEhxHhyEhyHBEhxRh2MhxHhyEiNChA4FBChA4FBChA4FBChA4FhEChAhyLBC",
  "hyAhyLBChAhyMCChAhyNCChAhyOBChyAhyOBChAhyPBChyAhyPBChAhyQBChyAhyQBChAhyRBChyAhyRBChAhySBChyA",
  "hySjWChyEhxCBChyEhxCBChyEhxDBChyEhxDBChyEhxFBChyEhxFBChyEhxHBChyEhxHnHChA4EhsqACsiTsjIohbCj0",
  "qXj0rFBCj0qYj0rFBDj0qYj0rFj0rOBDj0qYj0rFj0rPBDj0qYj0rFj0rQBDj0qYj0rFj0rRBDj0qYj0rFj0rSiXCj0t",
  "Zj0rFBCj0taj0rFBDj0tZj0rFj0rOBDj0taj0rFj0rOBDj0tZj0rFj0rPBDj0taj0rFj0rPhnGCjTjTmybChQhMBChRh",
  "MBChShMBChThMBChUhMBChVhMBChWhMBChXhMBChYhMBChZhMGDhIjBhJBDhIjChJBDhIjDhJBDhIjEhJBDhIjFhJBDh",
  "IjGhJBDhIjHhJBDhIjIhJBDhIjJhJBDhIjKhJBDhIjLhJBDhIjMhJBDhIjNhJBDhIjOhJBDhIjPhJBDhIjQhJBDhIjRh",
  "JBDhIjShJBDhIjThJBDhIjUhJBDhIjVhJBDhIjWhJBDhIjXhJBDhIjYhJBDhIjZhJBDhIjahJBDsgUjTsgVDCjDjEBCj",
  "XjacCjIjWBCjNjWBCjTjEBCjTjTBDjQjQjWBCjXjDbCjNjDBCjNjEBCjNjShECjEjKjQCsjbsiLBCslTslThfDsgU55M",
  "sgVBDsgUzwJsgVBDsgUz0MsgVBDsgU28JsgVBDsgU8lZsgVBDsgU4yTsgVBDsgU92XsgVBDsgU02dsgVBDsgU5qXsgV"]

def takeEntry (codes : List Nat) (n : Nat) : List Nat × List Nat := (codes.take n, codes.drop n)

theorem takeEntry_le (codes : List Nat) (n : Nat) : (takeEntry codes n).2.length ≤ codes.length := by
  simp [takeEntry]

/-- Reads entries of a gap, a length and so many code points. -/
def entriesFrom (last : Nat) : List Nat → List (Nat × List Nat)
  | gap :: n :: rest =>
    (last + gap, (takeEntry rest n).1) :: entriesFrom (last + gap) (takeEntry rest n).2
  | _ => []
termination_by codes => codes.length
decreasing_by
  have := takeEntry_le rest n
  simp only [List.length_cons]
  omega

def expandedTable : Array (Nat × List Nat) := (entriesFrom 0 (unpack expandedLines)).toArray

def mapCode (n : Nat) : Option (List Nat) :=
  if keptTable.mem n then some [n]
  else match movedTable.find? n with
    | some m => some [m]
    | none =>
      if droppedTable.mem n then some []
      else (expandedTable.find? (fun e => e.1 == n)).map (·.2)

def mapFrom (label : List Nat) : Nat → List Nat → Except Fault (List Nat)
  | _, [] => .ok []
  | position, n :: rest =>
    (mapCode n).elim (.error (.notMapped n position label)) fun ms =>
      (mapFrom label (position + 1) rest).map (ms ++ ·)

/-- Positions count from one. -/
def mapLabel (label : List Nat) : Except Fault (List Nat) := mapFrom label 1 label

end DelegationAudit.Idna
