/-!
# General categories

Every character has one general category, named by two letters of which the
first is its group: `Lu` is an uppercase letter.  The categories are kept as
run lengths over all code points.
-/

namespace ActionGraph.Text.Category

def names : Array String :=
  #["Cc", "Cf", "Cn", "Co", "Cs", "Ll", "Lm", "Lo", "Lt", "Lu", "Mc", "Me", "Mn", "Nd", "Nl",
    "No", "Pc", "Pd", "Pe", "Pf", "Pi", "Po", "Ps", "Sc", "Sk", "Sm", "So", "Zl", "Zp", "Zs"]

/-- Run lengths, each before the letter of its category; one is not written. -/
def runs : List String :=
  ["32Ad3VX3VWSVZVR2V10N2V3Z2V26JWVSYQY26FWZSZ33AdV4XaVYaHUZBaYaZ2PYF2VYPHT3PV23JZ7J24FZ8FJFJFJF",
     "JFJFJFJFJFJFJFJFJFJFJFJFJFJFJFJFJFJFJFJFJFJFJFJFJ2FJFJFJFJFJFJFJFJ2FJFJFJFJFJFJFJFJFJFJFJFJF",
     "JFJFJFJFJFJFJFJFJFJFJF2JFJFJ3F2JFJF2JF3J2F4JF2JF3J3F2JF2JFJFJF2JFJ2FJF2JF3JFJF2J2FHJ3F4HJIFJ",
     "IFJIFJFJFJFJFJFJFJFJ2FJFJFJFJFJFJFJFJFJ2FJIFJF3JFJFJFJFJFJFJFJFJFJFJFJFJFJFJFJFJFJFJFJFJFJFJ",
     "FJFJFJFJFJFJFJ7F2JF2J2FJF4JFJFJFJFJ69FH27F18G4Y12G14Y5G7YGYG17Y112MJFJFGYJF2CG3FVJ4C2YJV3JCJ",
     "C2JF17JC9J35FJ2F3J3FJFJFJFJFJFJFJFJFJFJFJFJ5FJFZJF2J2F51J48FJFJFJFJFJFJFJFJFJFJFJFJFJFJFJFJF",
     "JFa5M2LJFJFJFJFJFJFJFJFJFJFJFJFJFJFJFJFJFJFJFJFJFJFJFJFJFJFJF2JFJFJFJFJFJFJ2FJFJFJFJFJFJFJFJ",
     "FJFJFJFJFJFJFJFJFJFJFJFJFJFJFJFJFJFJFJFJFJFJFJFJFJFJFJFJFJFJFJFJFJFJFJFJFJFJFJFJFC38J2CG6V41",
     "FVR2C2aXC45MRMV2MV2MVM8C27H4C4H2V11C6B3Z2VX2V2a11MVB3V32HG10H21M10N4V2HM99HVH7MBa6M2G2Ma4M2H",
     "10N3H2aH14VCBHM30H27M2C89H11MH14C10N33H9M2Ga3VG2CM2X22H4MG9MG3MG5M2C15VC25H3M2CVC11H5C24HY6H",
     "C2B6C8M41HG24MB32MK54HMKMH3K8M4KM2KH7M10H2M2V10NVG15HM2KC8H2C2H2C22HC7HCH3C4H2CMH3K4M2C2K2C2",
     "KMH8CK4C2HC3H2M2C10N2H2X6PaXHVM2C2MKC6H4C2H2C22HC7HC2HC2HC2H2CMC3K2M4C2M2C3M3CM7C4HCH7C10N2M",
     "3HMV10C2MKC9HC3HC22HC7HC2HC5H2CMH3K5MC2MKC2KM2CH15C2H2M2C10NVX7CH6MCM2KC8H2C2H2C22HC7HC2HC5H",
     "2CMHKMK4M2C2K2C2KM7C2MK4C2HC3H2M2C10NaH6P10CMHC6H3C3HC4H3C2HCHC2H3C2H3C3H3C12H4C2KM2K3C3KC3K",
     "M2CH6CK14C10N3P6aXa5CM3KM8HC3HC23HC16H2CMH3M4KC3MC4M7C2MC3H2CH2C2H2M2C10N7CV7PaHM2KV8HC3HC23",
     "HC10HC5H2CMHKM5KCM2KC2K2M7C2K6C2HC2H2M2C10NC2HK12C2M2K9HC3HC41H2MH3K4MC3KC3KMHa4C3HK7P3H2M2C",
     "10N9Pa6HCM2KC18H3C24HC9HCH2C7H3CM4C3K3MCMC8K6C10N2C2KV12C48HM2H7M4CX6HG8MV10N2V37C2HCHC5HC24",
     "HCHC10HM2H9MH2C5HCGC7MC10N2C4H32CH3a15VaV3a2M6a10N10PaMaMaMWSWS2K8HC36H4C14MK5MV2M5H11MC36MC",
     "8aM6aC2a5V4a2V37C43H2K4MK6MK2M2K2MH10N6V6H2K2M4H3MH3K2H7K3H4M13HM2K2M6KMHK10N3KM2a38JCJ5CJ2C",
     "43FVG3F329HC4H2C7HCHC4H2C41HC4H2C33HC4H2C7HCHC4H2C15HC57HC4H2C67H2C3M9V20P3C16H10a6C86J2C6F2",
     "CR620HaV17Hd26HWS3C75H3V3O8H7C18H3MK9C19H2MK2V9C18H2M12C13HC3HC2M12C52H2MK7M8KM2K11M3VG3VXHM",
     "2C10N6C10P6C6VR4V3MBM10N6C35HG53H7C5H2M34HMH5C70H10C31HC3M4K2M3K4C2KM6K3M4Ca3C2V10N30H2C5H11",
     "C44H4C26H6C10NP3C34a23H2M2KM2C2V53HKMK7MCMKM2K8M6K10M2CM10N6C10N6C7VG6V2C14ML16M49C4MK47HMK5",
     "MKM5KM2K8H3C10N7V10a9M9a2VC2MK30HK4M2K2MK3M2H10N44HMK2M3KMK3M2K8C4V36H8K8M2K2M3C5V10N3C3H10N",
     "30H6G2V9FJF5C43J2C3J8V8C3MV13MK7M4HM6HM2HK2MH5C44F63G13FG34F37G64MJFJFJFJFJFJFJFJFJFJFJFJFJF",
     "JFJFJFJFJFJFJFJFJFJFJFJFJFJFJFJFJFJFJFJFJFJFJFJFJFJFJFJFJFJFJFJFJFJFJFJFJFJFJFJFJFJFJFJFJFJF",
     "JFJFJFJFJFJFJFJFJFJFJFJFJFJFJFJ9FJFJFJFJFJFJFJFJFJFJFJFJFJFJFJFJFJFJFJFJFJFJFJFJFJFJFJFJFJFJ",
     "FJFJFJFJFJFJFJFJFJFJFJFJFJFJFJFJFJFJFJ9F8J6F2C6J2C8F8J8F8J6F2C6J2C8FCJCJCJCJ8F8J14F2C8F8I8F8",
     "I8F8I5FC2F4JIYF3Y3FC2F4JI3Y4F2C2F4JC3Y8F5J3Y2C3FC2F4JI2YC11d5B6R2VUTW2UTWU8Vbc5Bd9VUT4V2Q3VZ",
     "WS11VZVQ10Vd5BC10BPG2C6P3ZWSG10P3ZWSC13G3C33X15C13M4LM3L12M15C2aJ4aJ2aF3J2F3JFaJ2aZ5J6aJaJaJ",
     "a4JaF4JF4HF2a2F2J5ZJ4FaZ2aFa16P35OJF4OP2a4C5Z5a2Z4aZ2aZ2aZ7aZ31a2Z2aZaZ31a268Z8aWSWS20a2Z7aW",
     "S81aZ30a25Z40a6Z69a25C11a21C60P78a22P183aZ9aZ54a8Z111aZ248aWSWSWSWSWSWSWS30P44a5ZWS31ZWSWSWS",
     "WSWS16Z256a131ZWSWSWSWSWSWSWSWSWSWSWS63ZWSWS32ZWS258Z48a21Z2a6Z39a2C32aC105a48J48FJF3J2FJFJF",
     "JF4JFJ2FJ6F2G3JFJFJFJFJFJFJFJFJFJFJFJFJFJFJFJFJFJFJFJFJFJFJFJFJFJFJFJFJFJFJFJFJFJFJFJFJFJFJF",
     "JFJFJFJFJFJFJFJFJFJFJ2F6aJFJF3MJF5C4VP2V38FCF5CF2C56H7CGV14CM23H9C7HC7HC7HC7HC7HC7HC7HC7HC32",
     "M2VUTUT3VUTVUT9VR2VRVUT2VUTWSWSWSWS5VG10V2R4VRVW13V2a3VWSWSWSWSR34C26aC89a12C214a26C12a4Cd3V",
     "aGHOWSWSWSWSWS2aWSWSWSWSRW2Sa9O4M2KR5G2a3OGHV2aC86H2C2M2Y2GHR90HV3GH5C43HC94HC2a4P10a32H36a1",
     "2C16H31aC10P30a8Pa15P32a10P39a15P320a6592H64a21013HG1143H3C55a9C40H6G2V268HG3V16H10N2H20CJFJ",
     "FJFJFJFJFJFJFJFJFJFJFJFJFJFJFJFJFJFJFJFJFJFHM3LV10MVGJFJFJFJFJFJFJFJFJFJFJFJFJFJF2G2M70H10O2",
     "M6V8C23Y9G2YJFJFJFJFJFJFJ3FJFJFJFJFJFJFJFJFJFJFJFJFJFJFJFJFJFJFJFJFJFJFJFJFJFJFJFJFJFJFJFG8F",
     "JFJF2JFJFJFJFJFG2YJFJFHJFJ3FJFJFJFJFJFJFJFJFJFJF5JF5JFJFJFJFJFJFJFJF4JFJF2JF2CJFCFCFJFJFJFJ2",
     "1C3GJFH2GF7HM3HM4HM23H2K2MK4aM3C6P2aXa6C52H4V8C2K50H16K2M8C2V10N6C18M6H3VHV2HM10N28H8M2V23H1",
     "1M2K11CV29H3C3MK47HM2K4M2K2M3K13VCG10N4C2V5HMG9H10N5HC41H6M2K2M2K2M9C3HM8HMK2C10N2C4V16HG6H3",
     "aHKMK50HMH3M2H2M5H2MHMH24C2HG2V11HK2M2K2VH2GKM10C6H2C6H2C6H9C7HC7HC43FY4G9FG2Y4C80F35H2KM2KM",
     "2KVKM2C10N6C11172H12C23H4C49H4C2048E6400D366H2C106H38C7F12C5F5CHM10HZ13HC5HCHC2HC2HC108H17Y1",
     "6C363HSW16a64H2C54H7Ca32C12HX3a16M7VWSV6C16MV2R2QWSWSWSWSWSWSWSWS2VWS4V3Q3VC4VRWSWSWS3VZR3ZC",
     "VX2V4C5HC135H2CBC3VX3VWSVZVR2V10N2V3Z2V26JWVSYQY26FWZSZWSVWS2V10HG45H2G31H3C6H2C6H2C6H2C3H3C",
     "2XZYa2XCa4Z2a10C3B2a2C12HC26HC19HC2HC15H2C14H34C123H5C3V4C45P3C9a53O4P17a2P3aC13a3Ca47C45aM1",
     "30C29H3C49H15CM27P4C32H4P9C20HO8HO5C38H5M5C30HCV36H4C8HV5O42C40J40F78H2C10N6C36J4C36F4C40H8C",
     "52H11CV11JC15JC7JC2JC11FC15FC7FC2F67C311H9C22H10C8H24C6GC42GC9G69C6H2CHC44HC2H3CH2C23HCV8P23",
     "H2a7P31H8C9P48C19HC2H5C5P22H6P3CV26H5CV64C56H4C2P2H16P2C46PH3MC2M5C4M4HC3HC29H2C3M4CM9P7C9V7",
     "C29H2PV29H3P32C8Ha28H2M4C5P7V9C54H3C7V22H2C8P19H5C8P18H7C4V12C7P80C73H55C51J13C51F7C6P36H4M8",
     "C10N6C10N6C22J10C22F218C31PC42HC2MR2C2H75C3M29H10PH8C22H11M4P5V22C18H4M4V38C21H7P20C23H9CKMK",
     "53H15M7V4C20P10NM2H2MH9C3MK45H3K4M2K2M2VB4VM10CB2C25H7C10N6C3M36H5MK8MC10N4VH2KH8C35HM2VH9C2",
     "MK48H3K9M2K4H4V4MVKM10NHVH3VC20P11C18HC25H3K3M2KMK2M6VM2HM62C7HCHC4HC15HC10HV6C47HM3K8M5C10N",
     "6C2M2KC8H2C2H2C22HC7HC2HC5HC2MH2KM4K2C2K2C3K2CH6CK5C5H2K2C7M3C5M139C53H3K8M2K3MKM4H5V10N2VCV",
     "M3H30C48H3K6MKM4K2MK2M2HVH8C10N166C47H3K4M2C4K2MK2M23V4H2M34C48H3K8M2KMK2M3VH11C10N6C13V19C4",
     "3HMKM2K6MKMHV6C10N54C27H2C3M2K4MK5M4C10N2P3Va7H185C44H3K9MK2MV100C32J32F10N9P12C8H2CH2C8HC2H",
     "C24H6KC2K2C2MKMHKHKM3V9C10N70C8H2C39H3K4M2C2M4KMHVHK27CH10M40H6MKH4M8VM8CH6M2K3M46H13MK2M3VH",
     "5V13C73H7C10V246C9HC37HK7MC6MKMH5V10C10N19P3C2V30H2C22MCK7MK2MK2M73C7HC2HC38H6M3CMC2MC7MHM8C",
     "10N6C6HC2HC32H5KC2MC2KMKMH7C10N310C19H2M2K2V7C2MHK13HC34H2K5M3C2KMKM13V10N86CH15C21P8a4X17a1",
     "3CV922H102C111OC5V11C196H2636C97H2V13C1072H16BM6H15M4010C583H8633C569H7C31HC10N4C2V79HC10N6C",
     "30H2C5MV10C48H7M5V4a4GVa10C10NC7PC21H5C19H688C32J32F23P4V101C75H4CMH55K7C4M13G64C2GVGM11C2K1",
     "4C6136H8C1238H42C9H8935C4GC7GC2GC291H15CH29C3H2CH14C4H8C396H2308C107H5C13H3C9H7C10H2Ca2MV4B4",
     "700C46M2C23M9C116a60C246a10C39a2C60a2K3M3a6K8B8M2a7M30a4M61a21C66a3Ma122C20P12C20P12C87a9C25",
     "P135C26J26F26J7FC18F26J26FJC2J2CJ2C2J2C4JC8J4FCFC7FC11F26J26F2JC4J2C8JC7JC26F2JC4JC5JCJ3C7JC",
     "26F26J26F26J26F26J26F26J26F26J26F26J28F2C25JZ25FZ6F25JZ25FZ6F25JZ25FZ6F25JZ25FZ6F25JZ25FZ6FJ",
     "F2C50N512a55M4a50M8aM14aM2a5V15C5MC15M1104C10FH20F6C6F213C7MC17M2C7MC2MC5M5C62G33CM112C45H3C",
     "7M7G2C10N4CHa320C30HM17C44H4M10N5CX464C27HG4M10N742C7HC4HC2HC15HC197H2C9P7M41C34J34F7MG4C10N",
     "4C2V785C59Pa3PX4P76C45Pa15P194C4HC27HC2HCH2CHC10HC4HCHCH6CH4CHCHCHC3HC2HCH2CHCHCHCHCHC2HCH2C",
     "4HC7HC4HC4HCHC10HC17H5C3HC5HC17H52C2Z270C44a4C100a12C15a2C15aC15aC37a10C13P161a56C29a13C44a4",
     "C9a7C2a14C6a154C251a5Y728a4C17a3C13a3C119a4C95a6C12a4Ca15C12a4C56a8C10a6C40a8C30a2C2a78C340a",
     "12C14a2C13a3C9a7C46aC7a8C14a4C9a7C9a7C147aC55a37C10N1030C42720H32C4154H6C222H2C5762H14C7473H",
     "3103C542H1506C4939H5C4192H711761CB30C96B128C240M65040C65534D2C65534D2C"]

def ofLetter (c : Char) : String :=
  let n := c.toNat
  names.getD (if n < 91 then n - 65 else n - 71) "Cn"

/-- The first code point behind each run, with its category. -/
def decode : List Char → Nat → Nat → Array (Nat × String) → Array (Nat × String)
  | [], _, _, table => table
  | c :: rest, start, length, table =>
      if c.isDigit then decode rest start (10 * length + (c.toNat - 48)) table
      else
        let stop := start + (if length = 0 then 1 else length)
        decode rest stop 0 (table.push (stop, ofLetter c))

def table : Array (Nat × String) :=
  decode (runs.flatMap String.toList) 0 0 #[]

/-- The first run whose end lies behind a code point, between two indices. -/
def search (table : Array (Nat × String)) (n : Nat) : Nat → Nat → Nat → String
  | 0, low, _ => (table.getD low (0, "Cn")).2
  | fuel + 1, low, high =>
      if high ≤ low then (table.getD low (0, "Cn")).2
      else
        let middle := (low + high) / 2
        if n < (table.getD middle (0, "Cn")).1 then search table n fuel low middle
        else search table n fuel (middle + 1) high

end Category

def category (c : Char) : String :=
  Category.search Category.table c.toNat 16 0 (Category.table.size - 1)

end ActionGraph.Text
